import ObjectDocument.Proofs.Schema.Coherent
import ObjectDocument.Proofs.Validation.Check

/-!
# Steady states

What holds of a mapper between any two of its steps, however deep it is in nested requests.  The
models at hand are those that are kept and those that are staged.  Each of them has the contents of
the outline of its type, and links to what its type requires; each has a serial number of its own,
and a link with the number of a model at hand is the link to that model.

A state that is steady stays so when a type is begun, when its model is entered, and when its making
ends with the model kept or dropped.  `Grows` is what a whole request does to a state: nothing but
to add finished models.
-/

namespace ObjectDocument

namespace EntityModel

def links (model : EntityModel) : List ModelLink :=
  model.superclass.toList ++ model.interfaces

end EntityModel

/-- The model is one of the type, as far as declarations and settings decide. -/
structure Context.Describes (context : Context) (key : TypeKey) (model : EntityModel) : Prop where
  mappable : context.schema.isMappable key
  founded : context.schema.Founded key
  typeKey : model.typeKey = key
  outline : context.outline key = .ok model.contents
  parents : model.superclass.toList.map (·.key) = context.schema.parents key
  interfaces : model.interfaces.map (·.key) = context.schema.allInterfaces key

namespace Context.Describes

variable {context : Context} {key : TypeKey} {model : EntityModel}

theorem links (describes : context.Describes key model) :
    model.links.map (·.key) = context.schema.required key := by
  rw [EntityModel.links, List.map_append, describes.parents, describes.interfaces]
  rfl

theorem exists_link (describes : context.Describes key model) {other : TypeKey}
    (h : other ∈ context.schema.required key) : ∃ link ∈ model.links, link.key = other := by
  rw [← describes.links] at h
  simpa using h

theorem link_required (describes : context.Describes key model) {link : ModelLink}
    (h : link ∈ model.links) : link.key ∈ context.schema.required key := by
  rw [← describes.links]
  exact List.mem_map_of_mem h

end Context.Describes

namespace MapperState

def entries (state : MapperState) : List (TypeKey × EntityModel) :=
  state.models ++ state.staged

def enter (state : MapperState) (model : EntityModel) : MapperState :=
  { state with serial := state.serial + 1, staged := state.staged ++ [(model.typeKey, model)] }

@[simp] theorem entries_enter (model : EntityModel) (state : MapperState) :
    (state.enter model).entries = state.entries ++ [(model.typeKey, model)] := by
  simp [entries, enter]

theorem entries_finish_subset (key : TypeKey) (state : MapperState) :
    (state.finish key).entries ⊆ state.entries :=
  List.append_subset.2 ⟨List.subset_append_left _ _,
    List.Subset.trans List.filter_sublist.subset (List.subset_append_right _ _)⟩

theorem entries_keep_subset (key : TypeKey) (model : EntityModel) (state : MapperState) :
    ((state.finish key).keep key model).entries ⊆ (key, model) :: state.entries := by
  intro entry h
  rcases List.mem_append.1 h with h | h
  · rcases List.mem_append.1 h with h | h
    · exact List.mem_cons_of_mem _ (List.mem_append_left _ h)
    · rw [List.mem_singleton.1 h]
      exact List.mem_cons_self
  · exact List.mem_cons_of_mem _ (entries_finish_subset key state (List.mem_append_right _ h))

theorem begun_finish {key : TypeKey} {state made : MapperState}
    (h : made.begun = key :: state.begun) (hkey : key ∉ state.begun) :
    (made.finish key).begun = state.begun := by
  rw [finish, h, List.filter_cons_of_neg (by simp)]
  refine List.filter_eq_self.2 fun other hother => ?_
  have hne : other ≠ key := fun heq => hkey (heq ▸ hother)
  simpa using hne

end MapperState

structure Grows (before after : MapperState) : Prop where
  begun : after.begun = before.begun
  staged : after.staged = before.staged
  models : before.models <+: after.models
  serial : before.serial ≤ after.serial
  fresh : ∀ entry ∈ after.models, entry ∈ before.models ∨ before.serial ≤ entry.2.serial

namespace Grows

variable {before between after : MapperState}

theorem refl (state : MapperState) : Grows state state :=
  ⟨rfl, rfl, List.prefix_rfl, Nat.le_refl _, fun _ h => .inl h⟩

theorem trans (first : Grows before between) (second : Grows between after) : Grows before after :=
  ⟨second.begun.trans first.begun, second.staged.trans first.staged,
    first.models.trans second.models, Nat.le_trans first.serial second.serial, fun entry h =>
      (second.fresh entry h).elim (first.fresh entry) fun h => .inr (Nat.le_trans first.serial h)⟩

theorem write (record : LogRecord) (state : MapperState) : Grows state (state.write record) :=
  ⟨rfl, rfl, List.prefix_rfl, Nat.le_refl _, fun _ h => .inl h⟩

theorem models_subset (grows : Grows before after) : before.models ⊆ after.models :=
  grows.models.subset

theorem entries_subset (grows : Grows before after) : before.entries ⊆ after.entries := by
  intro entry h
  rcases List.mem_append.1 h with h | h
  · exact List.mem_append_left _ (grows.models_subset h)
  · exact List.mem_append_right _ (grows.staged ▸ h)

end Grows

/-- What holds of a mapper between any two of its steps. -/
structure Steady (context : Context) (state : MapperState) : Prop where
  begun_nodup : state.begun.Nodup
  begun_mappable : ∀ key ∈ state.begun, context.schema.isMappable key
  staged_begun : ∀ entry ∈ state.staged, entry.1 ∈ state.begun
  staged_nodup : (state.staged.map (·.1)).Nodup
  kept_ended : ∀ entry ∈ state.models, entry.1 ∉ state.begun
  kept_nodup : (state.models.map (·.1)).Nodup
  passes : ∀ entry ∈ state.models, entry.2.Passes context
  describes : ∀ entry ∈ state.entries, context.Describes entry.1 entry.2
  numbered : ∀ entry ∈ state.entries, entry.2.serial < state.serial
  distinct : ∀ entry ∈ state.entries, ∀ other ∈ state.entries,
    entry.2.serial = other.2.serial → entry = other
  links_numbered : ∀ entry ∈ state.entries, ∀ link ∈ entry.2.links, link.serial < state.serial
  links_exact : ∀ entry ∈ state.entries, ∀ link ∈ entry.2.links, ∀ other ∈ state.entries,
    other.2.serial = link.serial → other.2.link = link

namespace Steady

variable {context : Context} {state : MapperState} {key : TypeKey} {model : EntityModel}

theorem initial : Steady context {} where
  begun_nodup := List.nodup_nil
  begun_mappable := by simp
  staged_begun := by simp
  staged_nodup := List.nodup_nil
  kept_ended := by simp
  kept_nodup := List.nodup_nil
  passes := by simp
  describes := by simp [MapperState.entries]
  numbered := by simp [MapperState.entries]
  distinct := by simp [MapperState.entries]
  links_numbered := by simp [MapperState.entries]
  links_exact := by simp [MapperState.entries]

theorem write (steady : Steady context state) (record : LogRecord) :
    Steady context (state.write record) :=
  { steady with }

theorem begin (steady : Steady context state) (hmappable : context.schema.isMappable key)
    (hbegun : key ∉ state.begun) (hkept : key ∉ state.models.map (·.1)) :
    Steady context (state.begin key) :=
  { steady with
    begun_nodup := List.nodup_cons.2 ⟨hbegun, steady.begun_nodup⟩
    begun_mappable := by
      intro other h
      rcases List.mem_cons.1 h with rfl | h
      · exact hmappable
      · exact steady.begun_mappable other h
    staged_begun := fun entry h => List.mem_cons_of_mem _ (steady.staged_begun entry h)
    kept_ended := by
      intro entry h
      rw [MapperState.begin, List.mem_cons, not_or]
      exact ⟨fun heq => hkept (heq ▸ List.mem_map_of_mem h), steady.kept_ended entry h⟩ }

theorem enter (steady : Steady context state) (hbegun : model.typeKey ∈ state.begun)
    (hstaged : model.typeKey ∉ state.staged.map (·.1)) (hserial : model.serial = state.serial)
    (describes : context.Describes model.typeKey model)
    (hlinks : ∀ link ∈ model.links, ∃ entry ∈ state.entries, entry.2.link = link) :
    Steady context (state.enter model) where
  begun_nodup := steady.begun_nodup
  begun_mappable := steady.begun_mappable
  staged_begun := by
    intro entry h
    rcases List.mem_append.1 h with h | h
    · exact steady.staged_begun entry h
    · rw [List.mem_singleton.1 h]
      exact hbegun
  staged_nodup := by
    rw [MapperState.enter, List.map_append]
    refine List.nodup_append.2 ⟨steady.staged_nodup, by simp, ?_⟩
    rintro other h _ hkey rfl
    rw [List.map_singleton, List.mem_singleton] at hkey
    exact hstaged (by rwa [hkey] at h)
  kept_ended := steady.kept_ended
  kept_nodup := steady.kept_nodup
  passes := steady.passes
  describes := by
    intro entry h
    rw [MapperState.entries_enter] at h
    rcases List.mem_append.1 h with h | h
    · exact steady.describes entry h
    · rw [List.mem_singleton.1 h]
      exact describes
  numbered := by
    intro entry h
    rw [MapperState.entries_enter] at h
    rcases List.mem_append.1 h with h | h
    · exact Nat.lt_succ_of_lt (steady.numbered entry h)
    · rw [List.mem_singleton.1 h, hserial]
      exact Nat.lt_succ_self _
  distinct := by
    intro entry h other h' heq
    rw [MapperState.entries_enter] at h h'
    rcases List.mem_append.1 h with h | h <;> rcases List.mem_append.1 h' with h' | h'
    · exact steady.distinct entry h other h' heq
    · rw [List.mem_singleton.1 h', hserial] at heq
      exact absurd heq (Nat.ne_of_lt (steady.numbered entry h))
    · rw [List.mem_singleton.1 h, hserial] at heq
      exact absurd heq.symm (Nat.ne_of_lt (steady.numbered other h'))
    · rw [List.mem_singleton.1 h, List.mem_singleton.1 h']
  links_numbered := by
    intro entry h link hlink
    rw [MapperState.entries_enter] at h
    rcases List.mem_append.1 h with h | h
    · exact Nat.lt_succ_of_lt (steady.links_numbered entry h link hlink)
    · rw [List.mem_singleton.1 h] at hlink
      obtain ⟨other, hother, rfl⟩ := hlinks link hlink
      exact Nat.lt_succ_of_lt (steady.numbered other hother)
  links_exact := by
    intro entry h link hlink other hother heq
    rw [MapperState.entries_enter] at h hother
    -- The number of a new model is too large for any link, and a new link leads to an old model.
    have hold : ∃ entry ∈ state.entries, link = entry.2.link ∨ link ∈ entry.2.links := by
      rcases List.mem_append.1 h with h | h
      · exact ⟨entry, h, .inr hlink⟩
      · rw [List.mem_singleton.1 h] at hlink
        obtain ⟨target, htarget, rfl⟩ := hlinks link hlink
        exact ⟨target, htarget, .inl rfl⟩
    obtain ⟨target, htarget, hlink⟩ := hold
    have hnumber : link.serial < state.serial := by
      rcases hlink with rfl | hlink
      · exact steady.numbered target htarget
      · exact steady.links_numbered target htarget link hlink
    rcases List.mem_append.1 hother with hother | hother
    · rcases hlink with rfl | hlink
      · rw [steady.distinct other hother target htarget heq]
      · exact steady.links_exact target htarget link hlink other hother heq
    · rw [List.mem_singleton.1 hother, hserial] at heq
      exact absurd heq (Nat.ne_of_gt hnumber)

/-- A state with fewer models at hand and not fewer numbers given is as steady. -/
theorem of_subset {other : MapperState} (steady : Steady context state)
    (hentries : other.entries ⊆ state.entries) (hserial : other.serial = state.serial)
    (hbegun : other.begun ⊆ state.begun) (begun_nodup : other.begun.Nodup)
    (staged_begun : ∀ entry ∈ other.staged, entry.1 ∈ other.begun)
    (staged_nodup : (other.staged.map (·.1)).Nodup)
    (kept_ended : ∀ entry ∈ other.models, entry.1 ∉ other.begun)
    (kept_nodup : (other.models.map (·.1)).Nodup)
    (passes : ∀ entry ∈ other.models, entry.2.Passes context) : Steady context other where
  begun_nodup := begun_nodup
  begun_mappable := fun key h => steady.begun_mappable key (hbegun h)
  staged_begun := staged_begun
  staged_nodup := staged_nodup
  kept_ended := kept_ended
  kept_nodup := kept_nodup
  passes := passes
  describes := fun entry h => steady.describes entry (hentries h)
  numbered := fun entry h => hserial ▸ steady.numbered entry (hentries h)
  distinct := fun entry h other h' => steady.distinct entry (hentries h) other (hentries h')
  links_numbered := fun entry h => hserial ▸ steady.links_numbered entry (hentries h)
  links_exact := fun entry h link hlink other h' =>
    steady.links_exact entry (hentries h) link hlink other (hentries h')

theorem finish (steady : Steady context state) (key : TypeKey) :
    Steady context (state.finish key) := by
  refine steady.of_subset (MapperState.entries_finish_subset key state) rfl
    List.filter_sublist.subset (steady.begun_nodup.filter _) ?_ ?_ ?_ steady.kept_nodup
    steady.passes
  · intro entry h
    have h := List.mem_filter.1 h
    exact List.mem_filter.2 ⟨steady.staged_begun entry h.1, h.2⟩
  · exact (List.filter_sublist.map _).nodup steady.staged_nodup
  · exact fun entry h hbegun => steady.kept_ended entry h (List.mem_filter.1 hbegun).1

theorem keep (steady : Steady context state) (hstaged : (key, model) ∈ state.staged)
    (hpasses : model.Passes context) :
    Steady context ((state.finish key).keep key model) := by
  have hbegun := steady.staged_begun _ hstaged
  refine steady.of_subset ?_ rfl List.filter_sublist.subset (steady.finish key).begun_nodup
    (steady.finish key).staged_begun (steady.finish key).staged_nodup ?_ ?_ ?_
  · exact List.Subset.trans (MapperState.entries_keep_subset key model state)
      (List.cons_subset.2 ⟨List.mem_append_right _ hstaged, List.Subset.refl _⟩)
  · intro entry h
    rcases List.mem_append.1 h with h | h
    · exact (steady.finish key).kept_ended entry h
    · rw [List.mem_singleton.1 h]
      simp [MapperState.keep, MapperState.finish]
  · rw [MapperState.keep, List.map_append]
    refine List.nodup_append.2 ⟨steady.kept_nodup, by simp, ?_⟩
    rintro other h _ hkey rfl
    obtain ⟨entry, hentry, rfl⟩ := List.mem_map.1 h
    rw [List.map_singleton, List.mem_singleton] at hkey
    exact steady.kept_ended entry hentry (hkey ▸ hbegun)
  · intro entry h
    rcases List.mem_append.1 h with h | h
    · exact steady.passes entry h
    · rw [List.mem_singleton.1 h]
      exact hpasses

end Steady

end ObjectDocument
