import SchemaBindings.Proofs.Agreement

/-!
# The order of the documents

The scopes of a run over documents in any two orders agree, as long as no interface is defined twice. So the order of
the documents does not matter to what any of them yields (`mapDocument_eq_of_perm`).
-/

namespace SchemaBindings

open Schema

namespace Scope

/-- The scopes of a run over documents in two orders agree, if no interface is defined twice: of two interfaces with
one name the later one would count. -/
theorem agrees_of_perm (o : Options) {documents documents' : List Document} (hperm : documents.Perm documents')
    (hdistinct : (interfaceNames documents).Nodup) : (ofRun o documents).Agrees (ofRun o documents') := by
  have hflat : documents.flatten.Perm documents'.flatten := hperm.flatten
  have hdistinct' : (interfaceNames documents').Nodup := (hflat.filterMap _).nodup_iff.1 hdistinct
  have hoptions : (ofRun o documents).targets.options = (ofRun o documents').targets.options :=
    (Targets.options_registerScalars ..).trans (Targets.options_registerScalars ..).symm
  refine .of_options_eq hoptions (fun n => ?_) (fun n => ?_) fun n => ?_
  · have hscalar : n ∈ scalarNames documents.flatten ↔ n ∈ scalarNames documents'.flatten := by
      rw [mem_scalarNames, mem_scalarNames, hflat.mem_iff]
    rw [find?_ofRun, find?_ofRun, if_congr hscalar rfl rfl]
  · exact mem_known_ofDocuments.trans (((hflat.filterMap _).mem_iff).trans mem_known_ofDocuments.symm)
  · apply Option.ext
    intro successors
    rw [find?_interfaces_ofRun_iff hdistinct, find?_interfaces_ofRun_iff hdistinct']
    simp only [hflat.mem_iff]

/-- The order of the documents of a run does not matter to what any document yields: the modules in their order, the
failure after them, if any, and the number of skipped definitions. -/
theorem mapDocument_eq_of_perm (o : Options) {documents documents' : List Document}
    (hperm : documents.Perm documents') (hdistinct : (interfaceNames documents).Nodup) (document : Document) :
    (ofRun o documents).mapDocument document = (ofRun o documents').mapDocument document :=
  (agrees_of_perm o hperm hdistinct).mapDocument_eq document

/-- A document that uses an interface and a scalar of another one, before and after it. -/
theorem mapDocument_eq_of_user_first :
    let nodes : Document := [.interface ⟨"Node", none, [], [⟨"id", none, [], .named "ID" true⟩]⟩, .scalar "Date"]
    let users : Document := [.object ⟨"User", none, [],
      [⟨"node", none, [], .named "Node" false⟩, ⟨"born", none, [], .named "Date" false⟩]⟩]
    [nodes, users].Perm [users, nodes] ∧ (interfaceNames [nodes, users]).Nodup ∧
      ((ofRun .unset [users, nodes]).mapDocument users).failure = none ∧
      (ofRun .unset [nodes, users]).mapDocument users = (ofRun .unset [users, nodes]).mapDocument users := by
  intro nodes users
  have hperm : [nodes, users].Perm [users, nodes] := .swap users nodes []
  have hdistinct : (interfaceNames [nodes, users]).Nodup := by decide
  exact ⟨hperm, hdistinct, by decide +kernel, mapDocument_eq_of_perm .unset hperm hdistinct users⟩

end Scope

end SchemaBindings
