import Mathlib.Data.List.Induction
import ObjectDocument.Proofs.Mapper.History
import ObjectDocument.Proofs.Schema.Built

/-!
# Links of kept models

The links of a model are meant to lead to the models that are kept for the superclass of its type
and for the interfaces of its hierarchy (`MapperState.Linked`).  They name all of these types, and a
number of a model is never given again, so it is enough that each link leads somewhere
(`Resting.linked_iff`).

What a request leaves behind is linked so unless a model is refused in it.  So the links of all that
is kept are as they should be exactly if those are that were made while some other model was refused
(`Declarations.kept_linked_iff`).
-/

namespace ObjectDocument

/-- The kept models are linked to the very models that are kept for the superclasses of their types
and for the interfaces of their hierarchies. -/
structure MapperState.Linked (state : MapperState) (schema : Schema) : Prop where
  superclass : ∀ {key model parent}, state.cached? key = some model →
    schema.Extends key parent → parent ≠ .object →
      ∃ target, state.cached? parent = some target ∧ model.superclass = some target.link
  interfaces : ∀ {key model interface}, state.cached? key = some model →
    schema.Implements key interface → ∃ target, state.cached? interface = some target ∧
      ∀ link, (link ∈ model.interfaces ∧ link.key = interface) ↔ link = target.link

/-- The models that a request keeps are linked to models that are kept then. -/
def Mapper.LinksKept (mapper : Mapper) (earlier : List TypeKey) (key : TypeKey) : Prop :=
  ∀ entry ∈ (mapper.after (earlier ++ [key])).models, entry ∉ (mapper.after earlier).models →
    ∀ link ∈ entry.2.links, ((mapper.after (earlier ++ [key])).follow? link).isSome

namespace Resting

variable {context : Context} {state : MapperState} {link : ModelLink}

theorem follow?_isSome_iff (resting : Resting context state) :
    (state.follow? link).isSome ↔
      ∃ target, state.cached? link.key = some target ∧ target.serial = link.serial := by
  unfold MapperState.follow?
  rw [resting.staged, Option.isSome_iff_exists]
  simp [Option.filter_eq_some_iff]

theorem link_eq (resting : Resting context state) {key : TypeKey} {model target : EntityModel}
    (hmodel : (key, model) ∈ state.models) (hlink : link ∈ model.links)
    (htarget : state.cached? link.key = some target) (hserial : target.serial = link.serial) :
    target.link = link := by
  have htarget := resting.cached?_eq_some_iff.1 htarget
  exact resting.steady.links_exact (key, model) (List.mem_append_left _ hmodel) link hlink
    (link.key, target) (List.mem_append_left _ htarget) hserial

theorem isSome_follow?_of_linked (coherent : context.schema.Coherent)
    (resting : Resting context state) (linked : state.Linked context.schema) {key : TypeKey}
    {model : EntityModel} (hmodel : (key, model) ∈ state.models) (hlink : link ∈ model.links) :
    (state.follow? link).isSome := by
  have hcached := resting.cached?_eq_some_iff.2 hmodel
  have describes := resting.describes hmodel
  rw [resting.follow?_isSome_iff]
  rcases List.mem_append.1 hlink with hlink | hlink
  · have hkey : link.key ∈ context.schema.parents key :=
      describes.parents ▸ List.mem_map_of_mem hlink
    rw [coherent.parents_eq, List.mem_filter, Option.mem_toList] at hkey
    obtain ⟨target, htarget, hsuperclass⟩ :=
      linked.superclass hcached hkey.1 (by simpa using hkey.2)
    rw [hsuperclass] at hlink
    obtain rfl := List.mem_singleton.1 hlink
    exact ⟨target, htarget, rfl⟩
  · have himplements : context.schema.Implements key link.key :=
      (Schema.mem_allInterfaces_iff coherent).1
        (describes.interfaces ▸ List.mem_map_of_mem hlink)
    obtain ⟨target, htarget, hinterface⟩ := linked.interfaces hcached himplements
    exact ⟨target, htarget, congrArg ModelLink.serial ((hinterface link).1 ⟨hlink, rfl⟩).symm⟩

/-- Models are linked as they should be if every link leads somewhere. -/
theorem linked_iff (coherent : context.schema.Coherent) (resting : Resting context state) :
    state.Linked context.schema ↔
      ∀ entry ∈ state.models, ∀ link ∈ entry.2.links, (state.follow? link).isSome := by
  refine ⟨fun linked entry hentry link => resting.isSome_follow?_of_linked coherent linked hentry,
    fun hfollow => ?_⟩
  have hexact {key : TypeKey} {model : EntityModel} (hmodel : (key, model) ∈ state.models)
      {link : ModelLink} (hlink : link ∈ model.links) :
      ∃ target, state.cached? link.key = some target ∧ target.link = link := by
    obtain ⟨target, htarget, hserial⟩ :=
      resting.follow?_isSome_iff.1 (hfollow _ hmodel link hlink)
    exact ⟨target, htarget, resting.link_eq hmodel hlink htarget hserial⟩
  constructor
  · intro key model parent hcached hextends hproper
    have hmodel := resting.cached?_eq_some_iff.1 hcached
    have hparents : context.schema.parents key = [parent] := by
      rw [coherent.parents_eq, show context.schema.superclassOf? key = some parent from hextends]
      simp [hproper]
    have hkeys := (resting.describes hmodel).parents
    rw [hparents] at hkeys
    obtain ⟨link, hlink, rfl⟩ := List.map_eq_singleton_iff.1 hkeys
    have hsuperclass : model.superclass = some link := Option.toList_eq_singleton_iff.1 hlink
    have hlinks : link ∈ model.links := List.mem_append_left _ (hlink ▸ List.mem_cons_self)
    obtain ⟨target, htarget, rfl⟩ := hexact hmodel hlinks
    exact ⟨target, htarget, hsuperclass⟩
  · intro key model interface hcached himplements
    have hmodel := resting.cached?_eq_some_iff.1 hcached
    have hmem := (Schema.mem_allInterfaces_iff coherent).2 himplements
    rw [← (resting.describes hmodel).interfaces] at hmem
    obtain ⟨link, hlink, rfl⟩ := List.mem_map.1 hmem
    obtain ⟨target, htarget, rfl⟩ := hexact hmodel (List.mem_append_right _ hlink)
    refine ⟨target, htarget, fun other => ⟨fun ⟨hother, hkey⟩ => ?_, ?_⟩⟩
    · obtain ⟨found, hfound, rfl⟩ := hexact hmodel (List.mem_append_right _ hother)
      rw [hkey, htarget] at hfound
      cases hfound
      rfl
    · rintro rfl
      exact ⟨hlink, rfl⟩

/-- Between requests, links lead to models at hand if they can be followed. -/
theorem live_iff (resting : Resting context state) :
    state.Live (fun _ => True) ↔
      ∀ entry ∈ state.models, ∀ link ∈ entry.2.links, (state.follow? link).isSome := by
  unfold MapperState.Live
  rw [resting.entries]
  refine forall₂_congr fun entry hentry => forall₂_congr fun link hlink => ?_
  rw [resting.follow?_isSome_iff]
  constructor
  · intro h
    obtain ⟨⟨key, target⟩, htarget, rfl⟩ := h trivial
    have htype := (resting.describes htarget).typeKey
    obtain rfl : target.typeKey = key := htype
    exact ⟨target, resting.cached?_eq_some_iff.2 htarget, rfl⟩
  · rintro ⟨target, htarget, hserial⟩ -
    exact ⟨_, resting.cached?_eq_some_iff.1 htarget, resting.link_eq hentry hlink htarget hserial⟩

end Resting

section

variable {context : Context} (coherent : context.schema.Coherent)

include coherent

/-- A link that is alive once is so in all longer histories, and one that is alive later was so as
soon as it was made. -/
theorem Mapper.follow?_isSome_iff {earlier later : List TypeKey} (h : earlier <+: later)
    {entry : TypeKey × EntityModel}
    (hentry : entry ∈ ((Mapper.standard context).after earlier).models) {link : ModelLink}
    (hlink : link ∈ entry.2.links) :
    (((Mapper.standard context).after earlier).follow? link).isSome ↔
      (((Mapper.standard context).after later).follow? link).isSome := by
  have resting := Resting.after coherent earlier
  have resting' := Resting.after coherent later
  have grows := Resting.grows_after coherent h
  rw [resting.follow?_isSome_iff, resting'.follow?_isSome_iff]
  constructor
  · rintro ⟨target, htarget, hserial⟩
    have hmem := grows.models_subset (resting.cached?_eq_some_iff.1 htarget)
    exact ⟨target, resting'.cached?_eq_some_iff.2 hmem, hserial⟩
  · rintro ⟨target, htarget, hserial⟩
    refine ⟨target, resting.cached?_eq_some_iff.2 ?_, hserial⟩
    -- The number of the link was given before, so no later model has it.
    refine (grows.fresh _ (resting'.cached?_eq_some_iff.1 htarget)).resolve_right fun hfresh => ?_
    have hnumber := resting.steady.links_numbered entry (List.mem_append_left _ hentry) link hlink
    have hfresh : ((Mapper.standard context).after earlier).serial ≤ target.serial := hfresh
    omega

/-- A request at which no model is refused leaves links alive. -/
theorem Mapper.live_answer {keys : List TypeKey} {key : TypeKey}
    (hanswer : ¬ModelAnswer.IsRefusal ((Mapper.standard context).answerAfter keys key))
    (live : ((Mapper.standard context).after keys).Live fun _ => True) :
    ((Mapper.standard context).after (keys ++ [key])).Live fun _ => True := by
  have resting := Resting.after coherent keys
  rw [after_concat]
  exact Context.linking_request coherent (fun _ => True) False False.elim _ resting.steady
    resting.depth hanswer live

theorem Mapper.linked_after_iff (keys : List TypeKey) :
    ((Mapper.standard context).after keys).Linked context.schema ↔
      ∀ earlier key, earlier ++ [key] <+: keys →
        ModelAnswer.IsRefusal ((Mapper.standard context).answerAfter earlier key) →
          (Mapper.standard context).LinksKept earlier key := by
  rw [(Resting.after coherent keys).linked_iff coherent]
  constructor
  · intro hfollow earlier key hprefix _ entry hentry _ link hlink
    rw [follow?_isSome_iff coherent hprefix hentry hlink]
    exact hfollow entry ((Resting.grows_after coherent hprefix).models_subset hentry) link hlink
  · induction keys using List.reverseRecOn with
    | nil => exact fun _ entry hentry => by cases hentry
    | append_singleton keys key ih =>
        intro hkept
        have hprefix : keys <+: keys ++ [key] := List.prefix_append _ _
        have hbefore := ih fun earlier key h => hkept earlier key (h.trans hprefix)
        by_cases hanswer :
            ModelAnswer.IsRefusal ((Mapper.standard context).answerAfter keys key)
        · intro entry hentry link hlink
          by_cases hold : entry ∈ ((Mapper.standard context).after keys).models
          · rw [← follow?_isSome_iff coherent hprefix hold hlink]
            exact hbefore entry hold link hlink
          · exact hkept keys key List.prefix_rfl hanswer entry hentry hold link hlink
        · have live := (Resting.after coherent keys).live_iff.2 hbefore
          exact (Resting.after coherent (keys ++ [key])).live_iff.1
            (live_answer coherent hanswer live)

theorem Context.Buildable.not_refused {levels : Nat} {key : TypeKey} {state : MapperState}
    (buildable : context.Buildable key) (steady : Steady context state)
    (hdepth : context.schema.size < levels + state.begun.length) :
    ¬ModelAnswer.IsRefusal ((Mapper.standard context).request levels key state).1 := by
  rintro ⟨failure, hfailure⟩
  have ready : Ready context (fun _ => False) levels state := ⟨steady, hdepth, fun _ _ h => h⟩
  rcases (serving_request coherent consistent_buildable levels).of_supported ready buildable with
    ⟨model, hmodel⟩ | ⟨⟨name, hname⟩, -⟩
  · rw [hfailure] at hmodel
    cases hmodel
  · rw [hfailure] at hname
    cases hname

theorem Mapper.live_buildable (keys : List TypeKey) :
    ((Mapper.standard context).after keys).Live context.Buildable := by
  have hall := (Mapper.standard context).after_induction
    (fun state => Resting context state ∧ state.Live context.Buildable)
    ⟨.initial, fun entry hentry => by cases hentry⟩
    (fun key state ⟨resting, live⟩ => ⟨resting.answer coherent key,
      Context.linking_request coherent context.Buildable True
        (fun _ {_ _ _} buildable => buildable.not_refused coherent) _ resting.steady
        resting.depth (fun _ => trivial) live⟩) keys
  exact hall.2

/-- If everything that is kept can be built, then all links are as they should be. -/
theorem Mapper.linked_of_buildable {keys : List TypeKey}
    (hkept : ∀ entry ∈ ((Mapper.standard context).after keys).models, context.Buildable entry.1) :
    ((Mapper.standard context).after keys).Linked context.schema := by
  have resting := Resting.after coherent keys
  rw [resting.linked_iff coherent, ← resting.live_iff]
  intro entry hentry link hlink _
  refine live_buildable coherent keys entry hentry link hlink ?_
  have describes := resting.steady.describes entry hentry
  rw [resting.entries] at hentry
  exact Context.consistent_buildable.required (hkept entry hentry) _ (describes.link_required hlink)

end

/-- After a history of requests, the kept models are linked as they should be exactly if each link
of them can be followed, and exactly if those are that were kept by requests at which a model was
refused.  They always are if every type on a circle of needs can be built. -/
theorem Declarations.kept_linked_iff {declarations : Declarations} {schema : Schema}
    (h : declarations.build = .ok schema) (settings : Settings) :
    let mapper := Mapper.standard ⟨schema, settings⟩
    (∀ keys, (mapper.after keys).Linked schema ↔
      ∀ entry ∈ (mapper.after keys).models, ∀ link ∈ entry.2.links,
        ((mapper.after keys).follow? link).isSome) ∧
    (∀ keys, (mapper.after keys).Linked schema ↔ ∀ earlier key, earlier ++ [key] <+: keys →
      ModelAnswer.IsRefusal (mapper.answerAfter earlier key) → mapper.LinksKept earlier key) ∧
    ((Context.mk schema settings).CirclesBuildable →
      ∀ keys, (mapper.after keys).Linked schema) := by
  have coherent : (Context.mk schema settings).schema.Coherent := Declarations.coherent h
  refine ⟨fun keys => (Resting.after coherent keys).linked_iff coherent,
    Mapper.linked_after_iff coherent, fun circles keys => ?_⟩
  exact Mapper.linked_of_buildable coherent fun entry hentry =>
    circles.of_kept coherent ⟨keys, entry.2, hentry⟩

def Declarations.family : Declarations :=
  .ofList [
    { name := "Account", fields := [
      { name := "id", type := "i64", metadata := ⟨[.id]⟩ },
      { name := "owner", type := "Savings", metadata := ⟨[.reference {}]⟩ }] },
    { name := "Priced", kind := .interfaceType, fields := [
      { name := "example", type := "Savings", metadata := ⟨[.reference {}]⟩ }] },
    { name := "Savings", superclass := some "Account", interfaces := ["Priced"] }]

/-- Whatever is asked for of the family, its links are as they should be. -/
theorem Declarations.linked_family :
    (Context.mk family.schema {}).CirclesBuildable ∧
      ∀ keys, ((Mapper.standard ⟨family.schema, {}⟩).after keys).Linked family.schema := by
  have hbuild : family.build = .ok family.schema := build_eq_schema (by decide +kernel)
  have circles : (Context.mk family.schema {}).CirclesBuildable :=
    Context.circlesBuildable_of_buildsInOrder (by decide +kernel)
  exact ⟨circles, (kept_linked_iff hbuild {}).2.2 circles⟩

def Declarations.orphaning : Declarations :=
  .ofList [
    { name := "Account", constructorParams := some ["missing"], fields := [
      { name := "id", type := "i64", metadata := ⟨[.id]⟩ },
      { name := "owner", type := "Savings", metadata := ⟨[.reference {}]⟩ }] },
    { name := "Savings", superclass := some "Account" }]

/-- The subclass is kept while its superclass is made, and stays when that is refused. -/
theorem Declarations.not_linked_orphaning :
    ∃ schema, orphaning.build = .ok schema ∧
      ¬((Mapper.standard ⟨schema, {}⟩).after [⟨25⟩]).Linked schema := by
  refine ⟨orphaning.schema, build_eq_schema (by decide +kernel), fun linked => ?_⟩
  have hsubclass :
      (((Mapper.standard ⟨orphaning.schema, {}⟩).after [⟨25⟩]).cached? ⟨26⟩).isSome := by
    decide +kernel
  have hsuperclass :
      ((Mapper.standard ⟨orphaning.schema, {}⟩).after [⟨25⟩]).cached? ⟨25⟩ = none := by
    decide +kernel
  have hextends : orphaning.schema.Extends ⟨26⟩ ⟨25⟩ := by
    unfold Schema.Extends
    decide +kernel
  obtain ⟨model, hmodel⟩ := Option.isSome_iff_exists.1 hsubclass
  obtain ⟨target, htarget, -⟩ := linked.superclass hmodel hextends (by decide)
  rw [hsuperclass] at htarget
  cases htarget

end ObjectDocument
