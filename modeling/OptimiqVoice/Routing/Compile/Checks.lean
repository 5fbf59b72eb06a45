import OptimiqVoice.Routing.Compile.FollowMe

namespace OptimiqVoice.Routing.Compile

open Lib

inductive Mark where
  | visiting | done

structure CycleSearch where
  marks : Dict PlanNodeId Mark
  reported : List JsString
  warnings : List Diagnostic

def isMenuId (nodes : Dict PlanNodeId PlanNode) (id : PlanNodeId) : Bool :=
  (nodes.get? id).any (fun node => node.body.isIvrMenu)

def labelOf (nodes : Dict PlanNodeId PlanNode) (id : PlanNodeId) : JsString :=
  ((nodes.get? id).bind (fun node => node.body.label)).getD id

def reportCycle (nodes : Dict PlanNodeId PlanNode) (id : PlanNodeId) (stack : List PlanNodeId)
    (search : CycleSearch) : CycleSearch :=
  let cycle := if id ∈ stack then stack.drop (stack.idxOf id) else stack
  let key := join (lit ">") (sortOn (fun entry => entry) cycle)
  if key ∈ search.reported then search
  else
    { search with
      reported := key :: search.reported
      warnings := search.warnings ++ [⟨.warning, .ivrCycle, lit "IVR menus form a loop (" ++
            join (lit " -> ") ((cycle ++ [id]).map (labelOf nodes)) ++
            lit "); make sure a caller can always reach a person.",
          some ⟨lit "ivr-menu", id, some (labelOf nodes id)⟩, none⟩] }

def mark (id : PlanNodeId) (m : Mark) : Prog CycleSearch Unit :=
  Prog.modify (fun search => { search with marks := search.marks.set id m })

/-- Depth-first search over the menus, with at most `n` menus on the stack. -/
def visit (nodes : Dict PlanNodeId PlanNode) :
    Nat → List PlanNodeId → PlanNodeId → Prog CycleSearch Unit
  | 0, _, _ => Prog.stop
  | n + 1, stack, id => do
    let search ← Prog.get
    match search.marks.get? id with
    | some .done => pure ()
    | some .visiting => Prog.modify (reportCycle nodes id stack)
    | none => do
      mark id .visiting
      let references := ((nodes.get? id).map planNodeReferences).getD []
      Prog.each (visit nodes n (stack ++ [id])) (references.filter (isMenuId nodes))
      mark id .done

def menuIds (nodes : Dict PlanNodeId PlanNode) : List PlanNodeId :=
  sortOn id ((nodes.values.filter (fun node => node.body.isIvrMenu)).map (·.id))

def detectIvrCycles : Compiler Unit := do
  let s ← Prog.get
  let search := Prog.each (visit s.nodes (s.nodes.keys.length + 1) []) (menuIds s.nodes)
  match search ⟨Dict.empty, [], []⟩ with
  | none => Prog.stop
  | some (_, found) => Prog.each addDiagnostic found.warnings

def assertNodeClosure : Compiler Unit := do
  let s ← Prog.get
  Prog.each (fun id => match s.nodes.get? id with
    | none => pure ()
    | some node => Prog.each (fun reference =>
        if s.nodes.has reference then pure ()
        else reportError .danglingDestination
          (lit "Compiled node " ++ quoted id ++ lit " references " ++ quoted reference ++
            lit ", which is not in the node table.") (some ⟨node.body.kind, id, none⟩) none)
        (planNodeReferences node)) (sortOn id s.nodes.keys)

end OptimiqVoice.Routing.Compile
