import Mathlib.Tactic.Convert
import PlanCourier.Collection.Browser
import PlanCourier.Proofs.Json.Integers

/-!
# The members of a collection

The ids of a collection's domains come as a list or as a text that holds one. The one is filtered,
the other printed by the service and read here; both give the same ids, in the same order and as
often as they were given, up to the ends of the range.

Main statements:

- `idsOf_list` and `idsOf_text`: the ids of each delivery;
- `members_in_both_forms`: so a collection has the same domains in both.
-/

namespace PlanCourier.Collection

open PlanCourier.Text

variable {ids : List Int} {text : String}

def withSet (c : Collection) (domainSet : Json) : Collection := { c with domainSet }

theorem id?_ofInt {id : Int} (h : Span.signed64.holds id = true) : id? (.ofInt id) = some id :=
  if_pos h

theorem fits_of_holds {id : Int} (h : Span.signed64.holds id = true) : Json.Fits id := by
  obtain ⟨hleast, hgreatest⟩ := Bool.and_eq_true_iff.1 h
  have hgreatest : id ≤ 0x7FFFFFFFFFFFFFFF := of_decide_eq_true hgreatest
  exact ⟨of_decide_eq_true hleast, by omega⟩

theorem idsOf_list (h : ∀ id ∈ ids, Span.signed64.holds id = true) :
    idsOf (.list (ids.map .ofInt)) = ids := by
  induction ids with
  | nil => rfl
  | cons id rest ih =>
    obtain ⟨hid, hrest⟩ := List.forall_mem_cons.1 h
    have hmore : (rest.map Json.ofInt).filterMap id? = rest := ih hrest
    rw [idsOf, List.map_cons, List.filterMap_cons, id?_ofInt hid, hmore]

theorem allIds_map (h : ∀ id ∈ ids, Span.signed64.holds id = true) :
    allIds (ids.map .ofInt) = some ids := by
  induction ids with
  | nil => rfl
  | cons id rest ih =>
    obtain ⟨hid, hrest⟩ := List.forall_mem_cons.1 h
    rw [List.map_cons, allIds, id?_ofInt hid, ih hrest]
    rfl

theorem idsOf_text (h : ∀ id ∈ ids, Span.signed64.holds id = true)
    (htext : Json.IsListOf ids text.toList) : idsOf (.text text) = ids := by
  have hread := Json.read?_of_isListOf htext fun id hid => fits_of_holds (h id hid)
  have hall : ((Json.list (ids.map .ofInt)).asList?).bind allIds = some ids := allIds_map h
  rw [idsOf, hread, Option.bind_some, hall]
  rfl

/-- Two deliveries of the same ids: a list, and a text that holds it with any blanks between its
parts, as the compact text of the list does. The collection has these ids in both, in their order
and each as often as it was given, and so the same members, and the same domains whatever service is
asked for them. -/
theorem members_in_both_forms (c : Collection)
    (h : ∀ id ∈ ids, Span.signed64.holds id = true) :
    Json.IsListOf ids (Json.list (ids.map .ofInt)).compactText.toList ∧
    ∀ text : String, Json.IsListOf ids text.toList →
      let listed := c.withSet (.list (ids.map .ofInt))
      let told := c.withSet (.text text)
      listed.domainIds = ids ∧ told.domainIds = ids ∧
      (∀ id, listed.contains id = decide (id ∈ ids) ∧ told.contains id = decide (id ∈ ids)) ∧
      ∀ {m : Type → Type} [Monad m] (s : CollectionService m),
        Browse.domainsIn s listed = Browse.domainsIn s told := by
  refine ⟨?_, fun text htext => ?_⟩
  · rw [Json.compactText, String.toList_ofList]
    exact Json.isListOf_compact ids
  intro listed told
  have hlisted : listed.domainIds = ids := idsOf_list h
  have htold : told.domainIds = ids := idsOf_text h htext
  refine ⟨hlisted, htold, fun id => ?_, fun s => ?_⟩
  · simp [contains, hlisted, htold]
  · have hmembers : Browse.membersOf listed = Browse.membersOf told := by
      funext ds
      simp only [Browse.membersOf, hlisted, htold]
    simp only [Browse.domainsIn, hmembers]

/-- The least id, the greatest one, and an id that is given twice, with blanks of each kind. -/
theorem members_at_both_ends :
    let ids := [-9223372036854775808, 9223372036854775807, 7, 7]
    let text := "\t[ -9223372036854775808,9223372036854775807\r\n,7 , 7]"
    let c : Collection := ⟨some 1, "IPC", "", .text text⟩
    (∀ id ∈ ids, Span.signed64.holds id = true) ∧ Json.IsListOf ids text.toList ∧
      c.domainIds = ids ∧ c.contains 9223372036854775807 = true ∧
      c.contains 9223372036854775806 = false := by
  intro ids text c
  have hids : ∀ id ∈ ids, Span.signed64.holds id = true := by decide
  have hnone := Json.isBlanks_nil
  have hspace := Json.isBlanks_space
  have htab : Json.IsBlanks ['\t'] := by simp [Json.IsBlanks, Json.isGap]
  have hbreak : Json.IsBlanks ['\r', '\n'] := by simp [Json.IsBlanks, Json.isGap]
  have hlist : Json.IsListOf ids _ :=
    .items htab (.more hspace hnone (.more hnone hbreak (.more hnone hspace (.last hspace hnone))))
      hnone
  have htext : Json.IsListOf ids text.toList := by
    convert hlist using 1
    decide +kernel
  obtain ⟨-, hdomains, hcontains, -⟩ := (members_in_both_forms c hids).2 text htext
  exact ⟨hids, htext, hdomains, (hcontains 9223372036854775807).2.trans (by decide),
    (hcontains 9223372036854775806).2.trans (by decide)⟩

end PlanCourier.Collection
