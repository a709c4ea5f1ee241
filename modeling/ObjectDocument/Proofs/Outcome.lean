import Mathlib.Data.List.Forall2

/-!
# Outcomes

When a sequence of steps that may fail comes to a value, and when to an error.
-/

namespace Except

variable {ε α β : Type}

theorem bind_eq_ok_iff {first : Except ε α} {next : α → Except ε β} {b : β} :
    first >>= next = .ok b ↔ ∃ a, first = .ok a ∧ next a = .ok b := by
  cases first with
  | ok a =>
      change next a = .ok b ↔ _
      simp
  | error e =>
      change (Except.error e : Except ε β) = .ok b ↔ _
      simp

theorem bind_eq_error_iff {first : Except ε α} {next : α → Except ε β} {e : ε} :
    first >>= next = .error e ↔ first = .error e ∨ ∃ a, first = .ok a ∧ next a = .error e := by
  cases first with
  | ok a =>
      change next a = .error e ↔ _
      simp
  | error cause =>
      change (Except.error cause : Except ε β) = .error e ↔ _
      simp

theorem map_eq_ok_iff {outcome : Except ε α} {f : α → β} {b : β} :
    f <$> outcome = .ok b ↔ ∃ a, outcome = .ok a ∧ f a = b := by
  cases outcome with
  | ok a =>
      change Except.ok (f a) = .ok b ↔ _
      simp
  | error cause =>
      change (Except.error cause : Except ε β) = .ok b ↔ _
      simp

theorem map_eq_error_iff {outcome : Except ε α} {f : α → β} {e : ε} :
    f <$> outcome = .error e ↔ outcome = .error e := by
  cases outcome with
  | ok a =>
      change Except.ok (f a) = .error e ↔ _
      simp
  | error cause =>
      change (Except.error cause : Except ε β) = .error e ↔ _
      simp

theorem toOption_eq_some_iff {outcome : Except ε α} {a : α} :
    outcome.toOption = some a ↔ outcome = .ok a := by
  cases outcome <;> simp [Except.toOption]

/-- Steps over a list come to values if each of them does. -/
theorem mapM_eq_ok_iff {step : α → Except ε β} {as : List α} {bs : List β} :
    as.mapM step = .ok bs ↔ List.Forall₂ (fun a b => step a = .ok b) as bs := by
  induction as generalizing bs with
  | nil =>
      rw [List.mapM_nil, List.forall₂_nil_left_iff]
      exact ⟨fun h => (Except.ok.inj h).symm, fun h => h ▸ rfl⟩
  | cons a as ih =>
      rw [List.mapM_cons, bind_eq_ok_iff, List.forall₂_cons_left_iff]
      constructor
      · rintro ⟨b, hb, h⟩
        obtain ⟨rest, hrest, h⟩ := bind_eq_ok_iff.1 h
        exact ⟨b, rest, hb, ih.1 hrest, (Except.ok.inj h).symm⟩
      · rintro ⟨b, rest, hb, hrest, rfl⟩
        exact ⟨b, hb, bind_eq_ok_iff.2 ⟨rest, ih.2 hrest, rfl⟩⟩

theorem forM_eq_ok_iff {step : α → Except ε Unit} {as : List α} :
    as.forM step = .ok () ↔ ∀ a ∈ as, step a = .ok () := by
  induction as with
  | nil => exact ⟨fun _ => List.forall_mem_nil _, fun _ => rfl⟩
  | cons a as ih =>
      rw [List.forall_mem_cons, ← ih]
      change step a >>= (fun _ => as.forM step) = .ok () ↔ _
      rw [bind_eq_ok_iff]
      exact ⟨fun ⟨_, hstep, h⟩ => ⟨hstep, h⟩, fun ⟨hstep, h⟩ => ⟨(), hstep, h⟩⟩

/-- Steps over a list that do the same as two steps each come to the values that these come to one
list after the other. -/
theorem mapM_mapM_eq_ok_iff {γ : Type} {first : α → Except ε β} {second : β → Except ε γ}
    {both : α → Except ε γ} {as : List α} {cs : List γ}
    (h : ∀ a ∈ as, ∀ c, (∃ b, first a = .ok b ∧ second b = .ok c) ↔ both a = .ok c) :
    (∃ bs, as.mapM first = .ok bs ∧ bs.mapM second = .ok cs) ↔ as.mapM both = .ok cs := by
  simp only [mapM_eq_ok_iff]
  induction as generalizing cs with
  | nil => simp
  | cons a as ih =>
      rw [List.forall_mem_cons] at h
      simp only [List.forall₂_cons_left_iff]
      constructor
      · rintro ⟨_, ⟨b, bs, hb, hbs, rfl⟩, hcs⟩
        obtain ⟨c, rest, hc, hrest, rfl⟩ := List.forall₂_cons_left_iff.1 hcs
        exact ⟨c, rest, (h.1 c).1 ⟨b, hb, hc⟩, (ih h.2).1 ⟨bs, hbs, hrest⟩, rfl⟩
      · rintro ⟨c, rest, hc, hrest, rfl⟩
        obtain ⟨b, hb, hc⟩ := (h.1 c).2 hc
        obtain ⟨bs, hbs, hrest⟩ := (ih h.2).2 hrest
        exact ⟨b :: bs, ⟨b, bs, hb, hbs, rfl⟩, .cons hc hrest⟩

/-- Steps over what a list is related to come to values if each of them comes to one, and these are
related to the list as each of them is. -/
theorem exists_mapM_of_forall₂ {γ : Type} {R : α → β → Prop} {T : α → γ → Prop}
    {step : β → Except ε γ} {as : List α} {bs : List β} (h : List.Forall₂ R as bs)
    (hstep : ∀ a ∈ as, ∀ b, R a b → ∃ c, step b = .ok c ∧ T a c) :
    ∃ cs, bs.mapM step = .ok cs ∧ List.Forall₂ T as cs := by
  induction h with
  | nil => exact ⟨[], rfl, .nil⟩
  | @cons a b as bs hab _ ih =>
      obtain ⟨c, hc, hac⟩ := hstep a List.mem_cons_self b hab
      obtain ⟨cs, hcs, hall⟩ := ih fun a ha => hstep a (List.mem_cons_of_mem _ ha)
      exact ⟨c :: cs, mapM_eq_ok_iff.2 (.cons hc (mapM_eq_ok_iff.1 hcs)), .cons hac hall⟩

theorem exists_mapM {T : α → β → Prop} {step : α → Except ε β} {as : List α}
    (hstep : ∀ a ∈ as, ∃ b, step a = .ok b ∧ T a b) :
    ∃ bs, as.mapM step = .ok bs ∧ List.Forall₂ T as bs :=
  exists_mapM_of_forall₂ (List.forall₂_same.2 fun _ _ => rfl) fun a ha _ heq => heq ▸ hstep a ha

theorem mapM_eq_mapM {γ : Type} {first : α → Except ε γ} {second : β → Except ε γ} {as : List α}
    {bs : List β} (h : List.Forall₂ (fun a b => first a = second b) as bs) :
    as.mapM first = bs.mapM second := by
  induction h with
  | nil => rfl
  | cons hstep _ ih => rw [List.mapM_cons, List.mapM_cons, hstep, ih]

theorem exists_of_mem_mapM {step : α → Except ε β} {as : List α} {bs : List β}
    (h : as.mapM step = .ok bs) {b : β} (hb : b ∈ bs) : ∃ a ∈ as, step a = .ok b := by
  have hall := mapM_eq_ok_iff.1 h
  clear h
  induction hall with
  | nil => cases hb
  | @cons a found as bs hfound _ ih =>
      rcases List.mem_cons.1 hb with rfl | hb
      · exact ⟨a, List.mem_cons_self, hfound⟩
      · obtain ⟨a, ha, h⟩ := ih hb
        exact ⟨a, List.mem_cons_of_mem _ ha, h⟩

theorem exists_of_mem_of_mapM {step : α → Except ε β} {as : List α} {bs : List β}
    (h : as.mapM step = .ok bs) {a : α} (ha : a ∈ as) : ∃ b, step a = .ok b := by
  have hall := mapM_eq_ok_iff.1 h
  clear h
  induction hall with
  | nil => cases ha
  | cons hstep _ ih =>
      rcases List.mem_cons.1 ha with rfl | ha
      · exact ⟨_, hstep⟩
      · exact ih ha

/-- The error of steps over a list is that of one of them. -/
theorem exists_of_mapM_eq_error {step : α → Except ε β} {as : List α} {e : ε}
    (h : as.mapM step = .error e) : ∃ a ∈ as, step a = .error e := by
  induction as with
  | nil => cases h
  | cons a as ih =>
      rw [List.mapM_cons, bind_eq_error_iff] at h
      rcases h with h | ⟨b, -, h⟩
      · exact ⟨a, List.mem_cons_self, h⟩
      · rcases bind_eq_error_iff.1 h with h | ⟨bs, -, h⟩
        · obtain ⟨later, hlater, h⟩ := ih h
          exact ⟨later, List.mem_cons_of_mem _ hlater, h⟩
        · cases h

/-- What holds at first, and after each step of what was done before, holds in the end. -/
theorem foldlM_induction {step : β → α → Except ε β} {P : List α → β → Prop} {as : List α}
    {first last : β} (hfirst : P [] first)
    (hstep : ∀ done a rest before after, done ++ a :: rest = as → P done before →
      step before a = .ok after → P (done ++ [a]) after)
    (h : as.foldlM step first = .ok last) : P as last := by
  suffices hsuffix : ∀ (rest done : List α) (before : β), done ++ rest = as → P done before →
      rest.foldlM step before = .ok last → P as last from hsuffix as [] first rfl hfirst h
  intro rest
  induction rest with
  | nil =>
      intro done before has hbefore hlast
      cases hlast
      rwa [← has, List.append_nil]
  | cons a rest ih =>
      intro done before has hbefore hlast
      rw [List.foldlM_cons] at hlast
      obtain ⟨between, hbetween, hlast⟩ := bind_eq_ok_iff.1 hlast
      exact ih (done ++ [a]) between (by simpa using has)
        (hstep done a rest before between has hbefore hbetween) hlast

end Except
