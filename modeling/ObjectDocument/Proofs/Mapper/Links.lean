import ObjectDocument.Proofs.Mapper.Stable

/-!
# Links that lead somewhere

A model is linked to the models of what its type requires, and these are at hand when the links are
made.  One of them may be staged, and then be refused: that is the only way in which a link can come
to lead nowhere (`Context.linking_request`).  The request at which this happens is answered with the
failure of a validation, because whatever asks for a model that is refused fails with it.
-/

namespace ObjectDocument

def ModelAnswer.IsRefusal (answer : ModelAnswer) : Prop :=
  ∃ failure, answer = .error (.validation failure)

namespace MapperState

/-- Links to the wanted types lead to models at hand. -/
def Live (state : MapperState) (wanted : TypeKey → Prop) : Prop :=
  ∀ entry ∈ state.entries, ∀ link ∈ entry.2.links, wanted link.key →
    ∃ target ∈ state.entries, target.2.link = link

theorem Live.of_entries {before after : MapperState} {wanted : TypeKey → Prop}
    (live : before.Live wanted) (hafter : after.entries ⊆ before.entries)
    (hbefore : before.entries ⊆ after.entries) : after.Live wanted := by
  intro entry hentry link hlink hwanted
  obtain ⟨target, htarget, rfl⟩ := live entry (hafter hentry) link hlink hwanted
  exact ⟨target, hbefore htarget, rfl⟩

end MapperState

/-- Requests keep links to the wanted types alive, but for those at which a model is refused and
which are not `safe`. -/
def Context.Linking (context : Context) (wanted : TypeKey → Prop) (safe : Prop) (levels : Nat)
    (request : Request) : Prop :=
  ∀ {key state}, Steady context state → context.schema.size < levels + state.begun.length →
    (ModelAnswer.IsRefusal (request key state).1 → safe) → state.Live wanted →
    (request key state).2.Live wanted

section

variable {context : Context} {wanted : TypeKey → Prop} {safe : Prop} {levels : Nat}
  {request : Request} {key : TypeKey} {state before after : MapperState} {answer : ModelAnswer}
  {exchange : Exchange}

theorem Context.Linking.live (linking : context.Linking wanted safe levels request)
    (responds : Responds context request) (served : Serves request before exchange after)
    (hbefore : Steady context before)
    (hdepth : context.schema.size < levels + before.begun.length)
    (hsafe : ∀ entry ∈ exchange, entry.2.IsRefusal → safe) (live : before.Live wanted) :
    after.Live wanted := by
  have ⟨keep_write, keep_answer⟩ := Serves.on_way responds before
  refine (served.preserves (fun state => (Steady context state ∧ Grows before state) ∧
    state.Live wanted) (fun record state h => ⟨keep_write record state h.1, h.2⟩) ?_
    ⟨⟨hbefore, .refl before⟩, live⟩).2
  intro entry hentry state ⟨⟨steady, grows⟩, hstate⟩ hanswer
  refine ⟨keep_answer entry.1 state ⟨steady, grows⟩, linking steady ?_ ?_ hstate⟩
  · rw [grows.begun]
    exact hdepth
  · rw [hanswer]
    exact hsafe entry hentry

theorem Stages.live_enter {model : EntityModel}
    (stages : Stages context request key state before model)
    (responds : Responds context request) (begins : Steady context (state.begin key))
    (live : before.Live wanted) : (before.enter model).Live wanted := by
  intro entry hentry link hlink hwanted
  rw [MapperState.entries_enter] at hentry ⊢
  rcases List.mem_append.1 hentry with hentry | hentry
  · obtain ⟨target, htarget, rfl⟩ := live entry hentry link hlink hwanted
    exact ⟨target, List.mem_append_left _ htarget, rfl⟩
  · rw [List.mem_singleton.1 hentry] at hlink
    obtain ⟨found, hfound, rfl⟩ := stages.exists_required responds begins hlink
    exact ⟨_, List.mem_append_left _ hfound, rfl⟩

/-- The end of a making takes no model away but the staged one of its type. -/
theorem MapperState.mem_entries_finish {entry : TypeKey × EntityModel}
    (h : entry ∈ state.entries) (hne : entry.1 ≠ key ∨ entry ∈ state.models) :
    entry ∈ (state.finish key).entries := by
  rcases List.mem_append.1 h with h | h
  · exact List.mem_append_left _ h
  · rcases hne with hne | hne
    · exact List.mem_append_right _ (List.mem_filter.2 ⟨h, by simpa using hne⟩)
    · exact List.mem_append_left _ hne

theorem Serves.subset_finish (responds : Responds context request)
    (steady : Steady context state) (begins : Steady context (state.begin key))
    (served : Serves request (state.begin key) exchange after) :
    after.entries ⊆ (after.finish key).entries := by
  intro entry hentry
  refine MapperState.mem_entries_finish hentry ?_
  rcases List.mem_append.1 hentry with hentry | hentry
  · exact .inr hentry
  · rw [(served.grows responds begins).staged] at hentry
    refine .inl fun heq => steady.notMem_staged begins.notMem_begun ?_
    exact heq ▸ List.mem_map_of_mem hentry

/-- When a making ends with its model kept, the models at hand are the same. -/
theorem Stages.subset_keep {model : EntityModel} (responds : Responds context request)
    (steady : Steady context state) (begins : Steady context (state.begin key))
    (stages : Stages context request key state before model)
    (served : Serves request (before.enter model) exchange after) :
    ((after.finish key).keep key model).entries ⊆ after.entries ∧
      after.entries ⊆ ((after.finish key).keep key model).entries := by
  have hstaged : after.staged = state.staged ++ [(key, model)] :=
    (served.grows responds (stages.steady_enter responds steady begins)).staged.trans
      (stages.staged_enter responds begins)
  have hmodel : (key, model) ∈ after.entries :=
    List.mem_append_right _ (hstaged ▸ List.mem_append_right _ List.mem_cons_self)
  refine ⟨List.Subset.trans (MapperState.entries_keep_subset key model after)
    (List.cons_subset.2 ⟨hmodel, List.Subset.refl _⟩), fun entry hentry => ?_⟩
  rcases List.mem_append.1 hentry with hentry | hentry
  · exact List.mem_append_left _ (List.mem_append_left _ hentry)
  · by_cases hkey : entry.1 = key
    · rw [hstaged] at hentry
      rcases List.mem_append.1 hentry with hentry | hentry
      · exact absurd (hkey ▸ List.mem_map_of_mem hentry)
          (steady.notMem_staged begins.notMem_begun)
      · rw [List.mem_singleton.1 hentry]
        exact List.mem_append_left _ (List.mem_append_right _ List.mem_cons_self)
    · exact List.mem_append_right _ (List.mem_filter.2 ⟨hentry, by simpa using hkey⟩)

theorem Answered.live (responds : Responds context request)
    (linking : context.Linking wanted safe levels request) (steady : Steady context state)
    (hdepth : context.schema.size < levels + 1 + state.begun.length)
    (hsafe : answer.IsRefusal → safe) (hunwanted : safe → answer.IsRefusal → ¬wanted key)
    (live : state.Live wanted) (h : Answered context request key state answer after) :
    after.Live wanted := by
  have hbegun : context.schema.size < levels + (key :: state.begun).length := by
    rw [List.length_cons]
    omega
  have hok {found : List EntityModel} {entry : TypeKey × ModelAnswer}
      (hentry : entry ∈ found.map (·.answered)) : ¬entry.2.IsRefusal := by
    obtain ⟨model, -, rfl⟩ := List.mem_map.1 hentry
    rintro ⟨failure, hfailure⟩
    cases hfailure
  -- The links to what is required are alive when a model is entered.
  have hentered {before : MapperState} {model : EntityModel}
      (begins : Steady context (state.begin key))
      (stages : Stages context request key state before model) :
      (before.enter model).Live wanted := by
    obtain ⟨found, -, -, served⟩ := stages.served
    exact stages.live_enter responds begins (linking.live responds served begins hbegun
      (fun entry hentry hrefusal => (hok hentry hrefusal).elim) live)
  cases h with
  | unmappable | known | cyclic => exact live
  | @waited found other cause after begins opened served =>
      have hafter := linking.live responds served begins hbegun (fun entry hentry hrefusal => by
        rcases List.mem_append.1 hentry with hentry | hentry
        · exact (hok hentry hrefusal).elim
        · rw [List.mem_singleton.1 hentry] at hrefusal
          exact hsafe hrefusal) live
      exact hafter.of_entries (MapperState.entries_finish_subset key after)
        (served.subset_finish responds steady begins)
  | @unmade found cause after begins required served outline =>
      have hafter := linking.live responds served begins hbegun
        (fun entry hentry hrefusal => (hok hentry hrefusal).elim) live
      exact hafter.of_entries (MapperState.entries_finish_subset key after)
        (served.subset_finish responds steady begins)
  | @refused model failure before exchange after begins stages served asked rejects =>
      have entered := stages.steady_enter responds steady begins
      have hafter := linking.live responds served entered
        (by rwa [stages.begun_enter responds begins]) (fun _ _ _ => hsafe ⟨_, rfl⟩)
        (hentered begins stages)
      intro entry hentry link hlink hwanted
      obtain ⟨target, htarget, rfl⟩ :=
        hafter entry (MapperState.entries_finish_subset key _ hentry) link hlink hwanted
      refine ⟨target, MapperState.mem_entries_finish htarget (.inl fun heq => ?_), rfl⟩
      have htype := ((served.steady responds entered).describes target htarget).typeKey
      exact hunwanted (hsafe ⟨_, rfl⟩) ⟨_, rfl⟩ (heq ▸ htype ▸ hwanted)
  | @made model before exchange after begins stages served asked accepts record =>
      have entered := stages.steady_enter responds steady begins
      have hafter := linking.live responds served entered
        (by rwa [stages.begun_enter responds begins]) (fun entry hentry hrefusal => by
          obtain ⟨failure, hfailure⟩ := hrefusal
          have hfault := accepts.others entry hentry
          rw [hfailure] at hfault
          cases hfault) (hentered begins stages)
      have hentries := stages.subset_keep responds steady begins served
      exact hafter.of_entries hentries.1 hentries.2

/-- Requests keep links to the wanted types alive, if no request for a wanted type is refused, or as
long as none at all is. -/
theorem Context.linking_request (coherent : context.schema.Coherent)
    (wanted : TypeKey → Prop) (safe : Prop)
    (hsafe : safe → ∀ {levels key state}, wanted key → Steady context state →
      context.schema.size < levels + state.begun.length →
      ¬ModelAnswer.IsRefusal ((Mapper.standard context).request levels key state).1)
    (levels : Nat) : context.Linking wanted safe levels
      ((Mapper.standard context).request levels) := by
  induction levels with
  | zero =>
      intro key state steady hdepth
      have hlength := steady.length_begun_le
      omega
  | succ levels ih =>
      intro key state steady hdepth hrefusal live
      have responds := responds_request coherent levels
      exact (answered_answerOnce coherent responds key steady).live responds ih steady hdepth
        hrefusal (fun h hrefused hwanted => hsafe h hwanted steady hdepth hrefused) live

end

end ObjectDocument
