import PlanCourier.Command.Grammar
import PlanCourier.Command.Solve
import PlanCourier.Proofs.Document.Selection
import PlanCourier.World

/-!
# The roles of named documents

Which documents of a solve become the domain and the problem. A document that is named as the domain
is the domain. A document that is named as the problem is the problem too, unless no domain is named
and it comes first among the choices for the domain: the domain is chosen without regard to the name
of the problem, and what it has taken is not there for the problem any more.

Main statements:

- `load_host`: reading documents changes nothing;
- `pair_of_documentRequest`: a request holds the texts of the pair that is chosen;
- `roles_of_named_documents`: the roles in the request of a solve;
- `named_problem_sent_as_domain`: a problem that is submitted as the domain.
-/

namespace PlanCourier

namespace World

/-- The text of a document, which lies in the directory of the run. -/
def document (w : World) (id : String) : Except DocumentFault String :=
  Document.ofRead id (w.files.read (Path.join "." id))

def documents (w : World) (ids : List String) : Except DocumentFault (List Document) :=
  Id.run (Document.load (fun id => pure (w.document id)) ids)

theorem documents_cons (w : World) (id : String) (ids : List String) :
    w.documents (id :: ids) = (w.document id).bind fun text =>
      (w.documents ids).map (Document.of id text :: ·) := by
  unfold documents
  rw [Document.load]
  cases h : w.document id <;> rfl

/-- What was read are the documents that were asked for, in this order, each with its own text. -/
theorem eq_of_documents {w : World} {ids : List String} {ds : List Document}
    (h : w.documents ids = .ok ds) :
    ds.map (·.id) = ids ∧
      ∀ d ∈ ds, w.document d.id = .ok d.text ∧ d.kind = Document.classify d.text := by
  induction ids generalizing ds with
  | nil =>
    obtain rfl : [] = ds := Except.ok.inj h
    exact ⟨rfl, by simp⟩
  | cons id rest ih =>
    rw [documents_cons] at h
    cases htext : w.document id with
    | error fault => simp [htext, Except.bind] at h
    | ok text =>
      cases hrest : w.documents rest with
      | error fault => simp [htext, hrest, Except.bind, Except.map] at h
      | ok others =>
        obtain rfl : Document.of id text :: others = ds := by
          simpa [htext, hrest, Except.bind, Except.map] using h
        obtain ⟨hids, htexts⟩ := ih hrest
        exact ⟨congrArg (id :: ·) hids, List.forall_mem_cons.2 ⟨⟨htext, rfl⟩, htexts⟩⟩

theorem exists_document {w : World} {ids : List String} {ds : List Document}
    (h : w.documents ids = .ok ds) {id : String} (hid : id ∈ ids) : ∃ d ∈ ds, d.id = id := by
  rw [← (eq_of_documents h).1] at hid
  simpa using hid

end World

namespace Document

theorem load_host (ids : List String) (w : World) :
    (load (read World.host.files ".") ids).run w = (w.documents ids, w) := by
  induction ids with
  | nil => rfl
  | cons id rest ih =>
    have hread : (read World.host.files "." id).run w = (w.document id, w) := rfl
    rw [load, StateT.run_bind, hread, World.documents_cons]
    cases w.document id with
    | error fault => rfl
    | ok text =>
      change StateT.run (load (read World.host.files ".") rest >>= _) w = _
      rw [StateT.run_bind, ih]
      rfl

end Document

namespace SolveOrder

variable {o : SolveOrder} {api : String} {w w' : World} {request : Request}

/-- A request with documents from files: the pair that is chosen of all that are read. -/
theorem documentRequest_host (o : SolveOrder) (w : World) :
    (o.documentRequest World.host).run w =
      (match w.documents o.documentIds with
        | .error fault => .error (.document fault)
        | .ok documents =>
          match Document.selectPair documents o.domain o.problem with
          | .error fault => .error (.document fault)
          | .ok (domain, problem) => .ok (.ofDocuments domain.text problem.text), w) := by
  rw [documentRequest, StateT.run_bind, Document.load_host]
  cases w.documents o.documentIds with
  | error fault => rfl
  | ok documents =>
    cases hpair : Document.selectPair documents o.domain o.problem <;> simp only [bind, hpair] <;> rfl

/-- The two texts of a request are those of the pair that is chosen of the documents. -/
theorem pair_of_documentRequest (h : (o.documentRequest World.host).run w = (.ok request, w')) :
    w' = w ∧ ∃ documents domain problem, w.documents o.documentIds = .ok documents ∧
      Document.selectPair documents o.domain o.problem = .ok (domain, problem) ∧
      request = .ofDocuments domain.text problem.text := by
  rw [documentRequest_host, Prod.mk.injEq] at h
  obtain ⟨h, rfl⟩ := h
  refine ⟨rfl, ?_⟩
  split at h
  · cases h
  next documents hdocuments =>
    split at h
    · cases h
    next domain problem hpair =>
      exact ⟨documents, domain, problem, hdocuments, hpair, (Except.ok.inj h).symm⟩

/-- What the documents of a solve are submitted as, if the request can be built: for all files, ids
and texts.

The document that is named as the domain is always the domain. The document that is named as the
problem is the problem if a domain is named, too. If not, it is the domain instead just where it is
the first choice for the domain among all documents, which a document with a problem's text cannot
be beside documents of other kinds. -/
theorem roles_of_named_documents (hlisted : o.listed = none) (hhosted : o.hosted = false)
    (h : (o.request World.host api).run w = (.ok request, w')) :
    w' = w ∧ request.hosted = false ∧ ∃ documents, w.documents o.documentIds = .ok documents ∧
      (∀ x, o.domain = some x → w.document x = .ok request.domain) ∧
      ∀ y, o.problem = some y → o.domain ≠ some y →
        let first := (Document.domainChoices documents).head?.map (·.id)
        (o.domain ≠ none ∨ first ≠ some y → w.document y = .ok request.problem) ∧
        (o.domain = none → first = some y → w.document y = .ok request.domain ∧
          ∃ z, z ∈ o.documentIds ∧ z ≠ y ∧ w.document z = .ok request.problem) ∧
        ((∃ text, w.document y = .ok text ∧ Document.classify text = .problem) →
          (∃ d ∈ documents, d.kind ≠ .problem) → first ≠ some y) := by
  have hrequest : o.request World.host api = o.documentRequest World.host := by
    simp [SolveOrder.request, hlisted, hhosted]
  rw [hrequest] at h
  obtain ⟨rfl, documents, domain, problem, hdocuments, hpair, rfl⟩ := pair_of_documentRequest h
  obtain ⟨hids, hread⟩ := World.eq_of_documents hdocuments
  obtain ⟨hdomain, hproblem, hne⟩ := Document.mem_of_selectPair hpair
  have hasText {d : Document} (hd : d ∈ documents) {id : String} (hid : d.id = id) :
      w'.document id = .ok d.text := hid ▸ (hread d hd).1
  refine ⟨rfl, rfl, documents, hdocuments, fun x hx => ?_, fun y hy hxy => ?_⟩
  · have hmem := World.exists_document hdocuments (mem_documentIds.2 (.inr (.inl hx)))
    rw [hx] at hpair
    exact hasText hdomain (Document.id_of_named_domain hpair hmem)
  · have hmem := World.exists_document hdocuments (mem_documentIds.2 (.inr (.inr hy)))
    rw [hy] at hpair
    -- without a named domain it is the first choice that becomes the domain
    have hfirst (hnone : o.domain = none) :
        (Document.domainChoices documents).head? = some domain := by
      rw [hnone] at hpair
      exact (Document.selectPair_eq_ok.1 hpair).1
    refine ⟨fun hfree => ?_, fun hnone htaken => ?_, ?_⟩
    · refine hasText hproblem (Document.id_of_named_problem hpair hmem fun hid => ?_)
      cases hnamed : o.domain with
      | none => exact hfree.elim (· hnamed) (· (by rw [hfirst hnamed, ← hid]; rfl))
      | some x =>
        have hx := World.exists_document hdocuments (mem_documentIds.2 (.inr (.inl hnamed)))
        rw [hnamed] at hpair
        exact hxy (by rw [hnamed, ← hid, Document.id_of_named_domain hpair hx])
    · rw [hfirst hnone] at htaken
      obtain rfl : domain.id = y := Option.some.inj htaken
      exact ⟨hasText hdomain rfl, problem.id, hids ▸ List.mem_map_of_mem hproblem, hne,
        hasText hproblem rfl⟩
    · rintro ⟨text, htext, hkind⟩ ⟨d, hd, hother⟩ hhead
      obtain ⟨e, he, rfl⟩ := Option.map_eq_some_iff.1 hhead
      have hmem := Document.mem_domainChoices.1 (List.mem_of_mem_head? he)
      obtain rfl : e.text = text := Except.ok.inj ((hread e hmem).1.symm.trans htext)
      exact hother (Document.kind_of_first_choice he ((hread e hmem).2.trans hkind) d hd)

end SolveOrder

namespace Sample

def domainText : String := "(define (domain bw))"

/-- The text of a problem, with a remark that mentions the domain. -/
def problemText : String := "; of (domain bw)\n(define (problem p) (:domain bw))"

def workplace : World :=
  .fresh (((Files.emptyAt ["work"]).add ["work", "d.pddl"] (.file (.text domainText))).add
    ["work", "p.pddl"] (.file (.text problemText))) .silent ⟨0⟩

/-- The order to solve the problem, for which the domain is to be found. -/
def order : SolveOrder :=
  { SolveOrder.blank with files := ["p.pddl", "d.pddl"], problem := some "p.pddl" }

end Sample

/-- Where the domain is named as well, the two documents have their roles. -/
theorem roles_of_remarked_problem :
    ∃ request, ({ Sample.order with domain := some "d.pddl" }.request World.host "").run
        Sample.workplace = (.ok request, Sample.workplace) ∧
      Sample.workplace.document "d.pddl" = .ok request.domain ∧
      Sample.workplace.document "p.pddl" = .ok request.problem := by
  have hrun : ({ Sample.order with domain := some "d.pddl" }.request World.host "").run
      Sample.workplace =
        (.ok (.ofDocuments Sample.domainText Sample.problemText), Sample.workplace) := rfl
  obtain ⟨-, -, documents, -, hdomain, hproblem⟩ :=
    SolveOrder.roles_of_named_documents rfl rfl hrun
  exact ⟨_, hrun, hdomain "d.pddl" rfl, (hproblem "p.pddl" rfl (by decide)).1 (.inl (by decide))⟩

/-- The remark makes the problem pass for a domain, and it comes first. If it alone is named, it is
submitted as the domain, and the domain as the problem. -/
theorem named_problem_sent_as_domain :
    Invocation.ofArguments ["solve", "p.pddl", "d.pddl", "--problem", "p.pddl"] =
      .ok ⟨.solve Sample.order, .unset⟩ ∧
    (Sample.order.request World.host "").run Sample.workplace =
      (.ok (.ofDocuments Sample.problemText Sample.domainText), Sample.workplace) ∧
    Sample.workplace.document "p.pddl" = .ok Sample.problemText ∧
    Sample.problemText ≠ Sample.domainText := by
  refine ⟨?_, ?_, ?_, ?_⟩
  · rfl
  · rfl
  · rfl
  · decide

end PlanCourier
