import TypedYaml.CommandLine.Run
import TypedYaml.Proofs.Outcome

/-!
# Outcomes of checks

A check needs a schema and a document, and the schema is looked for first. If one of the two cannot
be had, nothing is printed, and the message says why. Else all diagnostics are printed, each on a
line of its own, and the check fails exactly if there are errors among them. Then the message is
their number; warnings are not counted.

* `Outcome.Reports`: what is left of the check of a document.
* `run_check`: what a command line does that asks for a check.
-/

namespace TypedYaml.CommandLine

/-- All diagnostics are printed. Errors among them are a failure, and they are counted. -/
structure Outcome.Reports (o : Outcome) (ds : List Diagnostic) : Prop where
  output : o.output = String.join (ds.map fun d => d.display ++ "\n")
  success : (∀ d ∈ ds, d.isError = false) → o.code = 0 ∧ o.error = none
  failure : (∃ d ∈ ds, d.isError) → o.code = 1 ∧
    o.error =
      some ("Error: " ++ (toString (ds.filter Diagnostic.isError).length ++ " error(s) found"))

theorem Outcome.Reports.code_eq_zero_iff {o : Outcome} {ds : List Diagnostic} (h : o.Reports ds) :
    o.code = 0 ↔ ∀ d ∈ ds, d.isError = false := by
  constructor
  · intro hcode d hd
    cases herror : d.isError with
    | false => rfl
    | true => exact absurd (hcode.symm.trans (h.failure ⟨d, hd, herror⟩).1) (by decide)
  · exact fun hfree => (h.success hfree).1

theorem ofAnswer_check (r : Registry) (options : CheckOptions) (root : TypeId) (doc : Node) :
    let ds := r.validate options root doc
    let errors := (ds.filter Diagnostic.isError).length
    let output := String.join (ds.map fun d => d.display ++ "\n")
    Outcome.ofAnswer (check r options root doc) =
      if errors = 0 then ⟨0, output, none⟩
      else ⟨1, output, some ("Error: " ++ (toString errors ++ " error(s) found"))⟩ := by
  intro ds errors output
  have houtput : (check r options root doc).output = output := by
    show String.join ((ds.map Diagnostic.display).map (· ++ "\n")) = output
    rw [List.map_map]
    rfl
  by_cases hnone : errors = 0
  · have hfailure : (check r options root doc).failure = none := if_pos hnone
    rw [if_pos hnone, Outcome.ofAnswer, hfailure, houtput]
  · have hfailure : (check r options root doc).failure = some (.invalid errors) := if_neg hnone
    rw [if_neg hnone, Outcome.ofAnswer, hfailure, houtput]
    rfl

/-- The number of errors decides, and it is zero only where there is none. -/
theorem reports_check (r : Registry) (options : CheckOptions) (root : TypeId) (doc : Node) :
    (Outcome.ofAnswer (check r options root doc)).Reports (r.validate options root doc) := by
  have hcount : ((r.validate options root doc).filter Diagnostic.isError).length = 0 ↔
      ∀ d ∈ r.validate options root doc, d.isError = false := by
    simp [List.filter_eq_nil_iff]
  rw [ofAnswer_check]
  split
  · next hnone =>
    refine ⟨rfl, fun _ => ⟨rfl, rfl⟩, fun ⟨d, hd, herror⟩ => ?_⟩
    rw [hcount.mp hnone d hd] at herror
    cases herror
  · next hsome =>
    exact ⟨rfl, fun hfree => absurd (hcount.mpr hfree) hsome, fun _ => ⟨rfl, rfl⟩⟩

/-- A check of a document that can be loaded, with a schema that can be loaded, reports what is wrong
with the document. Else it says what cannot be loaded, and prints nothing. -/
theorem run_check {args : List String} {schema rootName file : Option String} {flag : Bool}
    (hargs : Invocation.ofArguments args = .ok ⟨schema, rootName, .check file flag⟩)
    (s : Surroundings) :
    let c := Config.ofFile s.config
    let found := schemaOf ⟨schema, rootName, .check file flag⟩ c s
    (∀ r root doc, found = .ok (r, root) → documentOf file s = .ok doc →
        (run args s).Reports (r.validate ⟨c.reportDeprecated && !flag⟩ root doc)) ∧
      (∀ f, found = .error f → run args s = ⟨1, "", some ("Error: " ++ f.message)⟩) ∧
      ∀ x f, found = .ok x → documentOf file s = .error f →
        run args s = ⟨1, "", some ("Error: " ++ f.message)⟩ := by
  intro c found
  have hrun : run args s = Outcome.ofAnswer (.ofExcept (found.bind fun x =>
      (documentOf file s).bind fun doc =>
        .ok (check x.1 ⟨c.reportDeprecated && !flag⟩ x.2 doc))) := by
    simp only [run, hargs]
    rfl
  refine ⟨fun r root doc hfound hdoc => ?_, fun f hfound => ?_, fun x f hfound hdoc => ?_⟩
  · rw [hrun, hfound, Except.bind, hdoc]
    exact reports_check r _ root doc
  · rw [hrun, hfound]
    rfl
  · rw [hrun, hfound, Except.bind, hdoc]
    rfl

/-- The warning is printed and not counted. -/
example :
    let schema := "root: C\ntypes:\n  C:\n    properties:\n" ++
      "      port:\n        type: Integer\n        deprecated: true\n"
    let file : String → Option Bytes
      | "s.yaml" => some schema.toUTF8.toList
      | _ => some "port: x\n".toUTF8.toList
    let o := run ["check", "-s", "s.yaml", "d.yaml"] ⟨none, file, none⟩
    let lines := ["warning: port: Property 'port' is deprecated\n",
      "error: port: 'x' is not a valid Integer\n"]
    (o.code, o.output, o.error) = (1, String.join lines, some "Error: 1 error(s) found") := by
  decide +kernel

end TypedYaml.CommandLine
