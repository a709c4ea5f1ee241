import ObjectDocument.Proofs.Number.Exact
import ObjectDocument.Proofs.OrderedMap
import ObjectDocument.Proofs.Outcome
import ObjectDocument.Proofs.Value.Entries
import ObjectDocument.Proofs.Value.Standard

/-!
# What is written is read back

Reading is wider than writing, so a value that was read need not be written as it was found.  It is
written in a normal form, and what is read from that is written in the same form again.  Of all
values but those of other libraries it is the same value; of these it is what their libraries make
of it, as that a moment is stored to the millisecond (`SlotType.ofBson_written`).  A map that is
kept without an order is written in any, and that makes no difference: `SlotType.Writes` says in
which ways a value is written, and each type of slots keeps that what it writes is read again
(`SlotType.readsAgain`).

Values that cannot be read need not be written so: a missing value inside of an optional one is
written like no value at all.
-/

theorem List.Forall₂.eq_of_forall {α : Type} {R : α → α → Prop} {p : α → Prop} {as bs : List α}
    (h : List.Forall₂ R as bs) (heq : ∀ a b, p a → R a b → b = a) (hall : ∀ a ∈ as, p a) :
    bs = as := by
  induction h with
  | nil => rfl
  | cons hab _ ih =>
      rw [List.forall_mem_cons] at hall
      rw [heq _ _ hall.1 hab, ih hall.2]

namespace ObjectDocument

/-! ### What is read -/

theorem readInt_eq_ok_iff {α : Type} {label : String} {low high : Int} {make : Int → α}
    {b : Bson} {a : α} :
    readInt label low high make b = .ok a ↔
      ∃ n, b.toInt? = some n ∧ low ≤ n ∧ n < high ∧ make n = a := by
  unfold readInt
  cases b.toInt? with
  | none => simp
  | some n =>
      by_cases h : low ≤ n ∧ n < high
      · simp [h]
      · simp only [h, if_false, Option.some.injEq, reduceCtorEq, false_iff]
        rintro ⟨_, rfl, hlow, hhigh, -⟩
        exact h ⟨hlow, hhigh⟩

theorem readDouble_eq_ok_iff {α : Type} {label : String} {make : Double → α} {b : Bson} {a : α} :
    readDouble label make b = .ok a ↔ ∃ d, b.toDouble? = some d ∧ make d = a := by
  unfold readDouble
  cases b.toDouble? <;> simp

theorem readItems_eq_ok_iff {α : Type} {read : Bson → Except MappingError α} {b : Bson}
    {values : List α} :
    readItems read b = .ok values ↔
      ∃ items, b = .array items ∧ List.Forall₂ (fun item value => read item = .ok value) items
        values := by
  cases b <;> simp [readItems, Except.mapM_eq_ok_iff]

theorem readDocument_eq_ok_iff {b : Bson} {entries : Document} :
    readDocument b = .ok entries ↔ b = .document entries := by
  cases b <;> simp [readDocument]

namespace SlotType

section

variable [ValueTypes]

theorem ofBson_option {type : SlotType} {b : Bson} (h : b.isMissing = false) :
    (option type).ofBson b = some <$> type.ofBson b := by
  cases b <;> first | rfl | cases h

theorem ofBson_option_of_missing {type : SlotType} {b : Bson} (h : b.isMissing = true) :
    (option type).ofBson b = .ok none := by
  cases b <;> first | rfl | cases h

theorem ofBson_option_eq_ok_none_iff {type : SlotType} {b : Bson} :
    (option type).ofBson b = .ok none ↔ b.isMissing = true := by
  refine ⟨fun h => ?_, ofBson_option_of_missing⟩
  by_contra hmissing
  have hread : (option type).ofBson b = some <$> type.ofBson b :=
    ofBson_option (Bool.eq_false_iff.2 hmissing)
  obtain ⟨_, -, h⟩ := Except.map_eq_ok_iff.1 (hread.symm.trans h)
  cases h

theorem ofBson_option_eq_ok_some_iff {type : SlotType} {b : Bson} {value : type.Carrier} :
    (option type).ofBson b = .ok (some value) ↔
      b.isMissing = false ∧ type.ofBson b = .ok value := by
  cases hmissing : b.isMissing with
  | true =>
      rw [ofBson_option_of_missing hmissing]
      constructor
      · intro h
        cases h
      · rintro ⟨h, -⟩
        cases h
  | false =>
      rw [ofBson_option hmissing]
      change (some <$> type.ofBson b : Except MappingError (Option type.Carrier)) =
        .ok (some value) ↔ _
      simp [Except.map_eq_ok_iff]

theorem ofBson_fixed_eq_ok_iff {type : SlotType} {length : Nat} {b : Bson}
    {items : (fixed length type).Carrier} :
    (fixed length type).ofBson b = .ok items ↔ readItems type.ofBson b = .ok items.val := by
  change (readItems type.ofBson b >>= fun items =>
    if h : items.length = length then .ok ⟨items, h⟩
    else .error (.conversion (.length length items.length))) = .ok items ↔ _
  rw [Except.bind_eq_ok_iff]
  constructor
  · rintro ⟨found, hfound, h⟩
    by_cases hlength : found.length = length
    · rw [dif_pos hlength] at h
      cases h
      exact hfound
    · rw [dif_neg hlength] at h
      cases h
  · exact fun h => ⟨items.val, h, dif_pos items.property⟩

def readEntries (type : SlotType) (entries : Document) :
    Except MappingError (List (String × type.Carrier)) :=
  entries.mapM fun entry => (entry.1, ·) <$> type.ofBson entry.2

theorem ofBson_map_eq_ok_iff {type : SlotType} {b : Bson} {entries : List (String × type.Carrier)} :
    (map type).ofBson b = .ok entries ↔
      ∃ stored found, b = .document stored ∧ readEntries type stored = .ok found ∧
        sortEntries found = entries := by
  change (readDocument b >>= fun stored => sortEntries <$> readEntries type stored) =
    .ok entries ↔ _
  simp only [Except.bind_eq_ok_iff, readDocument_eq_ok_iff, Except.map_eq_ok_iff]
  constructor
  · rintro ⟨stored, hstored, found, hfound, h⟩
    exact ⟨stored, found, hstored, hfound, h⟩
  · rintro ⟨stored, found, hstored, hfound, h⟩
    exact ⟨stored, hstored, found, hfound, h⟩

section

variable {type : SlotType} {b : Bson} {value : type.Carrier} {values : List type.Carrier}
  {entries : List (String × type.Carrier)}

theorem exists_of_mem_items (h : readItems type.ofBson b = .ok values) (hvalue : value ∈ values) :
    ∃ b, type.ofBson b = .ok value := by
  obtain ⟨items, rfl, hitems⟩ := readItems_eq_ok_iff.1 h
  obtain ⟨item, -, hitem⟩ := Except.exists_of_mem_mapM (Except.mapM_eq_ok_iff.2 hitems) hvalue
  exact ⟨item, hitem⟩

theorem exists_of_mem_map (h : (map type).ofBson b = .ok entries) {entry : String × type.Carrier}
    (hentry : entry ∈ entries) : ∃ b, type.ofBson b = .ok entry.2 := by
  obtain ⟨stored, found, -, hfound, rfl⟩ := ofBson_map_eq_ok_iff.1 h
  obtain ⟨other, -, hother⟩ := Except.exists_of_mem_mapM hfound (mem_of_mem_sortEntries hentry)
  obtain ⟨held, hheld, rfl⟩ := Except.map_eq_ok_iff.1 hother
  exact ⟨other.2, hheld⟩

theorem ascending_of_ofBson_map (h : (map type).ofBson b = .ok entries) : Ascending entries := by
  obtain ⟨stored, found, -, -, rfl⟩ := ofBson_map_eq_ok_iff.1 h
  exact ascending_sortEntries found

end

/-! ### Values that are alike -/

/-- The values are the same, but for those of other libraries, which are stored as the same. -/
def Alike : (type : SlotType) → type.Carrier → type.Carrier → Prop
  | .moment, value, other => ValueTypes.toDate value = ValueTypes.toDate other
  | .custom name, value, other => ValueTypes.toBson name value = ValueTypes.toBson name other
  | .option type, value, other => Option.Rel type.Alike value other
  | .list type, items, others => List.Forall₂ type.Alike items others
  | .fixed _ type, items, others => List.Forall₂ type.Alike items.val others.val
  | .map type, entries, others => Entrywise type.Alike entries others
  | _, value, other => value = other

/-- The values of other libraries in a value convert back from what they are stored as. -/
def Returns : (type : SlotType) → type.Carrier → Prop
  | .moment, value => ValueTypes.ofDate (ValueTypes.toDate value) = value
  | .custom name, value =>
    ∀ written, ValueTypes.toBson name value = .ok written →
      ValueTypes.ofBson name written = .ok value
  | .option type, value =>
    match value with
    | some value => type.Returns value
    | none => True
  | .list type, items => List.Forall type.Returns items
  | .fixed _ type, items => List.Forall type.Returns items.val
  | .map type, entries => List.Forall (fun entry => type.Returns entry.2) entries
  | _, _ => True

/-- What is read from the ways in which a value is written: one that is alike, and the value itself
if it converts back. -/
structure Again (type : SlotType) (value again : type.Carrier) : Prop where
  alike : type.Alike value again
  eq_of_returns : type.Returns value → again = value

section

variable {type : SlotType} {value other : type.Carrier} {values agains : List type.Carrier}
  {entries others : List (String × type.Carrier)}

theorem Alike.refl (value : type.Carrier) : type.Alike value value := by
  induction type with
  | option type ih =>
      cases value with
      | none => exact .none
      | some value => exact .some (ih value)
  | list type ih => exact List.forall₂_same.2 fun item _ => ih item
  | fixed length type ih => exact List.forall₂_same.2 fun item _ => ih item
  | map type ih => exact List.forall₂_same.2 fun entry _ => ⟨rfl, ih entry.2⟩
  | _ => rfl

theorem Again.refl (value : type.Carrier) : type.Again value value :=
  ⟨.refl value, fun _ => rfl⟩

theorem forall₂_again (h : List.Forall₂ type.Again values agains) :
    List.Forall₂ type.Alike values agains ∧
      (List.Forall type.Returns values → agains = values) :=
  ⟨h.imp fun _ _ => Again.alike, fun returns =>
    h.eq_of_forall (fun _ _ returns hagain => hagain.eq_of_returns returns)
      (List.forall_iff_forall_mem.1 returns)⟩

theorem entrywise_again (h : Entrywise type.Again entries others) :
    Entrywise type.Alike entries others ∧
      (List.Forall (fun entry => type.Returns entry.2) entries → others = entries) :=
  ⟨h.imp fun _ _ => And.imp_right Again.alike, fun returns =>
    h.eq_of_forall
      (fun _ _ returns hentry => Prod.ext hentry.1.symm (hentry.2.eq_of_returns returns))
      (List.forall_iff_forall_mem.1 returns)⟩

/-- Values that are alike are written as the same. -/
theorem Alike.toBson_eq (h : type.Alike value other) : type.toBson value = type.toBson other := by
  induction type with
  | moment => exact congrArg (Except.ok ∘ Bson.dateTime) h
  | custom => exact h
  | option type ih =>
      cases h with
      | none => rfl
      | some h => exact ih h
  | list type ih =>
      have hitems : List.Forall₂ type.Alike value other := h
      exact congrArg (Bson.array <$> ·) (Except.mapM_eq_mapM (hitems.imp fun _ _ => ih))
  | fixed length type ih =>
      have hitems : List.Forall₂ type.Alike value.val other.val := h
      exact congrArg (Bson.array <$> ·) (Except.mapM_eq_mapM (hitems.imp fun _ _ => ih))
  | map type ih =>
      have hentries : Entrywise type.Alike value other := h
      refine congrArg (· >>= _) (Except.mapM_eq_mapM (hentries.imp ?_))
      rintro ⟨key, value⟩ ⟨_, other⟩ ⟨rfl, hvalue⟩
      exact congrArg _ (ih hvalue)
  | _ => exact congrArg _ h

end

/-! ### Ways of writing -/

/-- The value is written as the document value.  The entries of a map may come in any order. -/
def Writes : (type : SlotType) → type.Carrier → Bson → Prop
  | .option type, value, written =>
    match value with
    | some value => type.Writes value written
    | none => written = .null
  | .list type, items, written =>
    ∃ others, written = .array others ∧ List.Forall₂ type.Writes items others
  | .fixed _ type, items, written =>
    ∃ others, written = .array others ∧ List.Forall₂ type.Writes items.val others
  | .map type, entries, written =>
    ∃ order others, written = .document others ∧ order.Perm entries ∧
      Entrywise type.Writes order others
  | type, value, written => type.toBson value = .ok written

/-- Entries that are in order are written one after another. -/
theorem exists_toBson_map {type : SlotType} {entries : List (String × type.Carrier)}
    (h : Ascending entries)
    (hwritten : ∀ entry ∈ entries, ∃ written, type.toBson entry.2 = .ok written ∧
      type.Writes entry.2 written) :
    ∃ written, (map type).toBson entries = .ok written ∧
      (map type).Writes entries written := by
  obtain ⟨others, hothers, hentries⟩ : ∃ others : Document,
      entries.mapM (fun entry => (entry.1, ·) <$> type.toBson entry.2) = .ok others ∧
        Entrywise type.Writes entries others := by
    refine Except.exists_mapM fun entry hentry => ?_
    obtain ⟨written, htoBson, hwrites⟩ := hwritten entry hentry
    exact ⟨(entry.1, written), Except.map_eq_ok_iff.2 ⟨written, htoBson, rfl⟩, rfl, hwrites⟩
  have hkeys : OrderedMap.ofEntries others = others :=
    OrderedMap.ofEntries_eq_self_iff.2 (hentries.keys_eq ▸ h.nodup)
  exact ⟨.document others, Except.bind_eq_ok_iff.2 ⟨others, hothers, by rw [hkeys]; rfl⟩, entries,
    others, rfl, .refl _, hentries⟩

/-- A value that was read is read again from whatever it is written as. -/
def ReadsAgain (type : SlotType) : Prop :=
  ∀ {b written : Bson} {value : type.Carrier}, type.ofBson b = .ok value →
    type.Writes value written →
      ∃ again, type.ofBson written = .ok again ∧ type.Again value again

/-! ### Reading again, type by type -/

theorem readsAgain_byte : byte.ReadsAgain := by
  rintro b written value - hwrites
  cases hwrites
  have hlt : value.toNat < 256 := UInt8.toNat_lt value
  refine ⟨value, readInt_eq_ok_iff.2 ⟨value.toNat, ?_, by omega, by omega, ?_⟩, .refl value⟩
  · exact congrArg some (Int32.toInt_ofInt_of_le (by omega) (by omega))
  · exact UInt8.ofNat_toNat

theorem readsAgain_int16 : int16.ReadsAgain := by
  rintro b written value - hwrites
  cases hwrites
  have hle := Int16.le_toInt value
  have hlt := Int16.toInt_lt value
  refine ⟨value, readInt_eq_ok_iff.2 ⟨value.toInt, ?_, hle, hlt, Int16.ofInt_toInt value⟩,
    .refl value⟩
  exact congrArg some (Int32.toInt_ofInt_of_le (by omega) (by omega))

/-- A number that was read was narrowed, and so is no other pattern of what is no number. -/
theorem readsAgain_single : single.ReadsAgain := by
  rintro b written value h hwrites
  cases hwrites
  obtain ⟨d, -, rfl⟩ := readDouble_eq_ok_iff.1 h
  exact ⟨_, congrArg Except.ok (Double.toSingle_toDouble_toSingle d), .refl _⟩

/-- What was read may be another moment than was written, but not once it was read. -/
theorem readsAgain_moment [LawfulValueTypes] : moment.ReadsAgain := by
  rintro b written value h hwrites
  cases hwrites
  obtain ⟨millis, -, rfl⟩ := Except.map_eq_ok_iff.1 h
  exact ⟨_, rfl, (LawfulValueTypes.toDate_ofDate millis).symm, id⟩

theorem readsAgain_custom [LawfulValueTypes] (name : String) : (custom name).ReadsAgain := by
  rintro b written value h hwrites
  obtain ⟨other, again, hother, hagain, hsame⟩ := LawfulValueTypes.exists_again h
  obtain rfl : other = written := Except.ok.inj (hother.symm.trans hwrites)
  exact ⟨again, hagain, hother.trans hsame.symm,
    fun returns => Except.ok.inj (hagain.symm.trans (returns other hother))⟩

theorem isMissing_of_writes [LawfulValueTypes] {type : SlotType} {b written : Bson}
    {value : type.Carrier} (h : type.ofBson b = .ok value) (hwrites : type.Writes value written)
    (hmissing : b.isMissing = false) : written.isMissing = false := by
  induction type generalizing b with
  | any =>
      cases h
      cases hwrites
      exact hmissing
  | custom => exact LawfulValueTypes.isMissing_toBson h hwrites hmissing
  | option type ih =>
      cases value with
      | none =>
          rw [ofBson_option_eq_ok_none_iff.1 h] at hmissing
          cases hmissing
      | some value => exact ih (ofBson_option_eq_ok_some_iff.1 h).2 hwrites hmissing
  | list | fixed =>
      obtain ⟨_, rfl, -⟩ := hwrites
      rfl
  | map =>
      obtain ⟨_, _, rfl, -⟩ := hwrites
      rfl
  | _ =>
      cases hwrites
      rfl

namespace ReadsAgain

variable {type : SlotType}

theorem option [LawfulValueTypes] (ih : type.ReadsAgain) : type.option.ReadsAgain := by
  intro b written value h hwrites
  cases value with
  | none =>
      cases hwrites
      exact ⟨none, rfl, .refl _⟩
  | some value =>
      obtain ⟨hmissing, hvalue⟩ := ofBson_option_eq_ok_some_iff.1 h
      obtain ⟨again, hread, hagain⟩ := ih hvalue hwrites
      exact ⟨some again, ofBson_option_eq_ok_some_iff.2
        ⟨isMissing_of_writes hvalue hwrites hmissing, hread⟩,
        .some hagain.alike, fun returns => congrArg some (hagain.eq_of_returns returns)⟩

theorem items (ih : type.ReadsAgain) {b : Bson} {values : List type.Carrier} {others : List Bson}
    (h : readItems type.ofBson b = .ok values) (hwrites : List.Forall₂ type.Writes values others) :
    ∃ agains, readItems type.ofBson (.array others) = .ok agains ∧
      List.Forall₂ type.Again values agains :=
  Except.exists_mapM_of_forall₂ hwrites fun _ hitem _ hwritten =>
    have ⟨_, hread⟩ := exists_of_mem_items h hitem
    ih hread hwritten

theorem list (ih : type.ReadsAgain) : type.list.ReadsAgain := by
  rintro b _ values h ⟨others, rfl, hwrites⟩
  obtain ⟨agains, hread, hagains⟩ := ih.items h hwrites
  obtain ⟨halike, hsame⟩ := forall₂_again hagains
  exact ⟨agains, hread, halike, hsame⟩

theorem fixed (ih : type.ReadsAgain) (length : Nat) : (fixed length type).ReadsAgain := by
  rintro b _ ⟨values, hvalues⟩ h ⟨others, rfl, hwrites⟩
  obtain ⟨agains, hread, hagains⟩ := ih.items (ofBson_fixed_eq_ok_iff.1 h) hwrites
  obtain ⟨halike, hsame⟩ := forall₂_again hagains
  have hlength : agains.length = length := hagains.length_eq.symm.trans hvalues
  exact ⟨⟨agains, hlength⟩, ofBson_fixed_eq_ok_iff.2 hread, halike,
    fun returns => Subtype.ext (hsame returns)⟩

/-- Both the value and what is read again are the entries as they were written, put in order. -/
theorem map (ih : type.ReadsAgain) : type.map.ReadsAgain := by
  rintro b _ value h ⟨order, others, rfl, hperm, hwrites⟩
  obtain ⟨agains, hread, hagains⟩ : ∃ agains, readEntries type others = .ok agains ∧
      Entrywise type.Again order agains := by
    refine Except.exists_mapM_of_forall₂ hwrites ?_
    rintro ⟨key, held⟩ hentry ⟨_, written⟩ ⟨rfl, hwritten⟩
    obtain ⟨b, hb⟩ := exists_of_mem_map h (hperm.mem_iff.1 hentry)
    obtain ⟨again, hread, hagain⟩ := ih hb hwritten
    exact ⟨(key, again), Except.map_eq_ok_iff.2 ⟨again, hread, rfl⟩, rfl, hagain⟩
  have hsorted := Entrywise.sortEntries hagains
  rw [(ascending_of_ofBson_map h).sortEntries_eq_of_perm hperm] at hsorted
  obtain ⟨halike, hsame⟩ := entrywise_again hsorted
  exact ⟨sortEntries agains, ofBson_map_eq_ok_iff.2 ⟨others, agains, rfl, hread, rfl⟩, halike,
    hsame⟩

end ReadsAgain

variable [LawfulValueTypes]

theorem readsAgain (type : SlotType) : type.ReadsAgain := by
  induction type with
  | byte => exact readsAgain_byte
  | int16 => exact readsAgain_int16
  | int32 =>
      rintro b written value - hwrites
      cases hwrites
      exact ⟨value, readInt_eq_ok_iff.2
        ⟨_, rfl, Int32.le_toInt value, Int32.toInt_lt value, Int32.ofInt_toInt value⟩, .refl value⟩
  | int64 =>
      rintro b written value - hwrites
      cases hwrites
      exact ⟨value, readInt_eq_ok_iff.2
        ⟨_, rfl, Int64.le_toInt value, Int64.toInt_lt value, Int64.ofInt_toInt value⟩, .refl value⟩
  | single => exact readsAgain_single
  | character =>
      rintro b written value - hwrites
      cases hwrites
      exact ⟨value, by simp [ofBson], .refl value⟩
  | moment => exact readsAgain_moment
  | custom name => exact readsAgain_custom name
  | option type ih => exact ih.option
  | list type ih => exact ih.list
  | fixed length type ih => exact ih.fixed length
  | map type ih => exact ih.map
  | _ =>
      rintro b written value - hwrites
      cases hwrites
      exact ⟨_, rfl, .refl _⟩

variable {type : SlotType} {b : Bson} {value : type.Carrier}

/-- A value that was read is written in a normal form, which is one of the ways in which it is
written. -/
theorem exists_toBson (h : type.ofBson b = .ok value) :
    ∃ written, type.toBson value = .ok written ∧ type.Writes value written := by
  induction type generalizing b with
  | custom =>
      obtain ⟨written, -, hwritten, -⟩ := LawfulValueTypes.exists_again h
      exact ⟨written, hwritten, hwritten⟩
  | option type ih =>
      cases value with
      | none => exact ⟨.null, rfl, rfl⟩
      | some value => exact ih (ofBson_option_eq_ok_some_iff.1 h).2
  | list type ih =>
      obtain ⟨others, hothers, hitems⟩ := Except.exists_mapM fun item hitem =>
        have ⟨b, hb⟩ := exists_of_mem_items h hitem
        ih hb
      exact ⟨.array others, Except.map_eq_ok_iff.2 ⟨others, hothers, rfl⟩, others, rfl, hitems⟩
  | fixed length type ih =>
      obtain ⟨others, hothers, hitems⟩ := Except.exists_mapM fun item hitem =>
        have ⟨b, hb⟩ := exists_of_mem_items (ofBson_fixed_eq_ok_iff.1 h) hitem
        ih hb
      exact ⟨.array others, Except.map_eq_ok_iff.2 ⟨others, hothers, rfl⟩, others, rfl, hitems⟩
  | map type ih =>
      refine exists_toBson_map (ascending_of_ofBson_map h) fun entry hentry => ?_
      obtain ⟨b, hb⟩ := exists_of_mem_map h hentry
      exact ih hb
  | _ => exact ⟨_, rfl, rfl⟩

/-- A value of any type that was read from a document value is written in its normal form.  From
this, and from whatever else it may be written as where maps have no order, a value is read that is
alike, and is the same if the values of other libraries in it convert back. -/
theorem ofBson_written (h : type.ofBson b = .ok value) :
    (∃ written, type.toBson value = .ok written ∧ type.Writes value written) ∧
      ∀ written, type.Writes value written → ∃ again, type.ofBson written = .ok again ∧
        type.Alike value again ∧ (type.Returns value → again = value) := by
  refine ⟨exists_toBson h, fun written hwrites => ?_⟩
  obtain ⟨again, hread, hagain⟩ := type.readsAgain h hwrites
  exact ⟨again, hread, hagain.alike, hagain.eq_of_returns⟩

end

/-- A key that comes twice, numbers of three sorts and a missing value: what was read is written
with its keys in another order. -/
theorem ofBson_written_positions :
    let type : SlotType := .map (.option (.fixed 2 .int64))
    let stored : Bson := .document [("b", .array [.int32 1, .int32 2]), ("a", .undefined),
      ("b", .array [.int32 3, .double ⟨4616189618054758400⟩])]
    let position : (fixed 2 int64).Carrier := ⟨[(3 : Int64), (4 : Int64)], rfl⟩
    let value : type.Carrier := [("a", none), ("b", some position)]
    let written : Bson := .document [("b", .array [.int64 3, .int64 4]), ("a", .null)]
    type.ofBson stored = .ok value ∧ type.Writes value written ∧ type.Returns value ∧
      type.ofBson written = .ok value := by
  intro type stored position value written
  have h : type.ofBson stored = .ok value := rfl
  have hwrites : type.Writes value written :=
    ⟨[("b", some position), ("a", none)], _, rfl, .swap .., .cons
      ⟨rfl, _, rfl, .cons rfl (.cons rfl .nil)⟩ (.cons ⟨rfl, rfl⟩ .nil)⟩
  have returns : type.Returns value := ⟨trivial, trivial, trivial⟩
  obtain ⟨again, hagain, -, hsame⟩ := (ofBson_written h).2 written hwrites
  exact ⟨h, hwrites, returns, hsame returns ▸ hagain⟩

/-- A date beyond the calendar is read as its last moment, which is stored to the millisecond and
read again as another moment. -/
example :
    (moment.ofBson (.dateTime 9223372036854775807) >>= moment.toBson) =
        .ok (.dateTime 8210266876799999) ∧
      moment.ofBson (.dateTime 9223372036854775807) = .ok Moment.last ∧
      moment.ofBson (.dateTime 8210266876799999) ≠ .ok Moment.last := by
  have hne : Moment.ofDate 8210266876799999 ≠ Moment.last := by decide
  exact ⟨rfl, rfl, fun h => hne (Except.ok.inj h)⟩

end SlotType

/-! ### Slots -/

namespace Slot

variable [ValueTypes]

def WasRead (slot : Slot) : Prop :=
  ∃ value, slot.type.ofBson value = .ok slot.value

def Returns (slot : Slot) : Prop :=
  slot.type.Returns slot.value

inductive Alike : Slot → Slot → Prop where
  | mk {type : SlotType} {value other : type.Carrier} (h : type.Alike value other) :
      Alike ⟨type, value⟩ ⟨type, other⟩

variable {slot other new : Slot} {value : Bson}

theorem Alike.refl (slot : Slot) : slot.Alike slot :=
  .mk (.refl slot.value)

theorem Alike.type_eq (h : slot.Alike other) : other.type = slot.type := by
  cases h
  rfl

theorem Alike.read_eq (h : slot.Alike other) : slot.read = other.read := by
  cases h with
  | mk h => exact h.toBson_eq

theorem write_eq_ok_iff :
    slot.write value = (new, .ok ()) ↔ ofBson slot.type value = .ok new := by
  unfold write
  cases ofBson slot.type value <;> simp

theorem write_eq_error_iff {cause : MappingError} :
    slot.write value = (new, .error cause) ↔
      slot.type.ofBson value = .error cause ∧ new = slot := by
  have hread : ofBson slot.type value = .error cause ↔ slot.type.ofBson value = .error cause :=
    Except.map_eq_error_iff
  unfold write
  rw [← hread]
  cases ofBson slot.type value <;> simp [and_comm, eq_comm]

theorem type_of_write (h : slot.write value = (new, .ok ())) : new.type = slot.type := by
  obtain ⟨_, -, rfl⟩ := Except.map_eq_ok_iff.1 (write_eq_ok_iff.1 h)
  rfl

/-- What was read is written in a form that every slot of the type takes, and makes a slot of that
is alike. -/
theorem WasRead.exists_again [LawfulValueTypes] (h : slot.WasRead) :
    ∃ written again, slot.read = .ok written ∧
      (∀ other : Slot, other.type = slot.type → other.write written = (again, .ok ())) ∧
      slot.Alike again ∧ (slot.Returns → again = slot) := by
  obtain ⟨value, hvalue⟩ := h
  obtain ⟨⟨written, hwritten, hwrites⟩, hagain⟩ := SlotType.ofBson_written hvalue
  obtain ⟨again, hread, halike, hsame⟩ := hagain written hwrites
  refine ⟨written, ⟨slot.type, again⟩, hwritten, fun other htype => ?_, .mk halike,
    fun returns => congrArg (Slot.mk slot.type) (hsame returns)⟩
  rw [write_eq_ok_iff, htype]
  exact Except.map_eq_ok_iff.2 ⟨again, hread, rfl⟩

end Slot

end ObjectDocument
