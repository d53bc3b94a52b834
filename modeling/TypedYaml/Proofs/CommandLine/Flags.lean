import TypedYaml.CommandLine.Run
import TypedYaml.Proofs.Check.Warnings
import TypedYaml.Proofs.Outcome

/-!
# Flags of a command

A flag is put down among what is given with a command, and nothing else that is read depends on it:
only a second one with its name would be refused (`Reads.withFlag`). What stands before the name of
a command is read without regard to what follows it (`Reads.exists_before`). So a flag that is not
given can be added behind the name of the command.

The flag that turns warnings off goes to the check, where it changes no errors. The command fails if
there are errors and says how many, so it fails with the flag if it fails without it, and in the same
way.

* `Reads`: how arguments are read.
* `Invocation.exists_ofArguments_check`: the command line of a check with the flag added.
* `check_withoutDeprecated`: reports, errors and outcomes with and without warnings.
-/

namespace TypedYaml.CommandLine

/-! ## What is given -/

namespace Given

/-- One more flag, after those that are given. -/
def withFlag (name : String) (g : Given) : Given := { g with flags := g.flags ++ [name] }

variable {name : String} {g g' : Given}

theorem setOption_withFlag {option : OptionName} {value : String}
    (h : g.setOption option value = .ok g') :
    (g.withFlag name).setOption option value = .ok (g'.withFlag name) := by
  cases option with
  | schema | root =>
    rw [setOption] at h
    split at h
    · cases h
    · next hok =>
      cases h
      exact if_neg hok

theorem addWord_withFlag {l : Level} {word : String} (h : g.addWord l word = .ok g') :
    (g.withFlag name).addWord l word = .ok (g'.withFlag name) := by
  rw [addWord] at h
  split at h
  · cases h
  · next hroom =>
    split at h
    · cases h
    · next hok =>
      cases h
      exact (if_neg hroom).trans (if_neg hok)

theorem setFlag_withFlag {flag : String} (h : g.setFlag flag = .ok g') (hne : flag ≠ name) :
    (g.withFlag name).setFlag flag = .ok (g'.withFlag name) := by
  rw [setFlag] at h
  split at h
  · cases h
  · next hnew =>
    cases h
    have hnew' : ¬ (g.flags ++ [name]).contains flag := by simpa [hne] using hnew
    exact if_neg hnew'

theorem flags_of_setOption {option : OptionName} {value : String}
    (h : g.setOption option value = .ok g') : g'.flags = g.flags := by
  cases option with
  | schema | root =>
    rw [setOption] at h
    split at h
    · cases h
    · cases h
      rfl

theorem flags_of_addWord {l : Level} {word : String} (h : g.addWord l word = .ok g') :
    g'.flags = g.flags := by
  rw [addWord] at h
  split at h
  · cases h
  · split at h
    · cases h
    · cases h
      rfl

theorem flags_of_setFlag {flag : String} (h : g.setFlag flag = .ok g') :
    g'.flags = flag :: g.flags := by
  rw [setFlag] at h
  split at h
  · cases h
  · cases h
    rfl

end Given

/-! ## Reading -/

/-- Two hyphens alone make everything after them words. -/
def argument (l : Level) (onlyWords : Bool) (arg : String) : Argument :=
  if onlyWords then .word else argumentOf l arg

/-- Arguments can be read, and what is given then and which of them are left. -/
inductive Reads (l : Level) : Bool → Given → List String → Given → List String → Prop
  | done (onlyWords : Bool) (g : Given) : Reads l onlyWords g [] g []
  | command {onlyWords : Bool} {g : Given} {arg : String} {args : List String}
      (harg : argument l onlyWords arg = .word) (hl : l.beforeCommand && !onlyWords) :
      Reads l onlyWords g (arg :: args) g (arg :: args)
  | word {onlyWords : Bool} {g g₁ g' : Given} {arg : String} {args rest : List String}
      (harg : argument l onlyWords arg = .word) (hl : ¬ (l.beforeCommand && !onlyWords))
      (hg : g.addWord l arg = .ok g₁) (h : Reads l onlyWords g₁ args g' rest) :
      Reads l onlyWords g (arg :: args) g' rest
  | onlyWords {onlyWords : Bool} {g g' : Given} {arg : String} {args rest : List String}
      (harg : argument l onlyWords arg = .onlyWords) (h : Reads l true g args g' rest) :
      Reads l onlyWords g (arg :: args) g' rest
  | flag {onlyWords : Bool} {g g₁ g' : Given} {arg name : String} {args rest : List String}
      (harg : argument l onlyWords arg = .flag name) (hg : g.setFlag name = .ok g₁)
      (h : Reads l onlyWords g₁ args g' rest) : Reads l onlyWords g (arg :: args) g' rest
  | attached {onlyWords : Bool} {g g₁ g' : Given} {arg value : String} {option : OptionName}
      {args rest : List String} (harg : argument l onlyWords arg = .option option (some value))
      (hg : g.setOption option value = .ok g₁) (h : Reads l onlyWords g₁ args g' rest) :
      Reads l onlyWords g (arg :: args) g' rest
  | separate {onlyWords : Bool} {g g₁ g' : Given} {arg value : String} {option : OptionName}
      {args rest : List String} (harg : argument l onlyWords arg = .option option none)
      (hvalue : isValue value) (hg : g.setOption option value = .ok g₁)
      (h : Reads l onlyWords g₁ args g' rest) :
      Reads l onlyWords g (arg :: value :: args) g' rest

theorem reads_of_readLevel {l : Level} {onlyWords : Bool} {g g' : Given}
    {args rest : List String} (h : readLevel l onlyWords g args = .ok (g', rest)) :
    Reads l onlyWords g args g' rest := by
  induction onlyWords, g, args using readLevel.induct l with
  | case1 onlyWords g =>
    rw [readLevel] at h
    cases h
    exact .done onlyWords _
  | case2 onlyWords g arg args harg hl =>
    simp only [readLevel, harg, hl, if_true] at h
    cases h
    exact .command harg hl
  | case3 onlyWords g arg args harg hl ih =>
    simp only [readLevel, harg, if_neg hl] at h
    obtain ⟨g₁, hg, hrest⟩ := bind_eq_ok_iff.mp h
    exact .word harg hl hg (ih g₁ hrest)
  | case4 onlyWords g arg args harg ih =>
    simp only [readLevel, harg] at h
    exact .onlyWords harg (ih h)
  | case5 onlyWords g arg args name harg ih =>
    simp only [readLevel, harg] at h
    obtain ⟨g₁, hg, hrest⟩ := bind_eq_ok_iff.mp h
    exact .flag harg hg (ih g₁ hrest)
  | case6 onlyWords g arg args option value harg ih =>
    simp only [readLevel, harg] at h
    obtain ⟨g₁, hg, hrest⟩ := bind_eq_ok_iff.mp h
    exact .attached harg hg (ih g₁ hrest)
  | case7 onlyWords g arg option harg value args hvalue ih =>
    simp only [readLevel, harg, hvalue, if_true] at h
    obtain ⟨g₁, hg, hrest⟩ := bind_eq_ok_iff.mp h
    exact .separate harg hvalue hg (ih g₁ hrest)
  | case8 onlyWords g arg option harg value args hvalue =>
    simp [readLevel, harg, hvalue] at h
  | case9 onlyWords g arg option harg =>
    simp [readLevel, harg] at h
  | case10 onlyWords g arg args reason harg =>
    simp [readLevel, harg] at h

namespace Reads

variable {l : Level} {onlyWords : Bool} {g g' : Given} {args rest : List String}

theorem readLevel (h : Reads l onlyWords g args g' rest) :
    readLevel l onlyWords g args = .ok (g', rest) := by
  induction h with
  | done => simp only [CommandLine.readLevel]
  | command harg hl =>
    rw [argument] at harg
    simp only [CommandLine.readLevel, harg, hl, if_true]
  | word harg hl hg _ ih =>
    rw [argument] at harg
    simp only [CommandLine.readLevel, harg, if_neg hl, hg]
    exact ih
  | onlyWords harg _ ih =>
    rw [argument] at harg
    simp only [CommandLine.readLevel, harg]
    exact ih
  | flag harg hg _ ih | attached harg hg _ ih =>
    rw [argument] at harg
    simp only [CommandLine.readLevel, harg, hg]
    exact ih
  | separate harg hvalue hg _ ih =>
    rw [argument] at harg
    simp only [CommandLine.readLevel, harg, hvalue, if_true, hg]
    exact ih

/-- No flag is taken back. -/
theorem flags_subset (h : Reads l onlyWords g args g' rest) : g.flags ⊆ g'.flags := by
  induction h with
  | done | command => exact List.Subset.refl _
  | word _ _ hg _ ih => exact Given.flags_of_addWord hg ▸ ih
  | onlyWords _ _ ih => exact ih
  | flag _ hg _ ih =>
    rw [Given.flags_of_setFlag hg] at ih
    exact List.Subset.trans (List.subset_cons_self _ _) ih
  | attached _ hg _ ih | separate _ _ hg _ ih => exact Given.flags_of_setOption hg ▸ ih

/-- One more flag is no hindrance, if it is not given again. -/
theorem withFlag {name : String} (h : Reads l onlyWords g args g' rest) (hname : name ∉ g'.flags) :
    Reads l onlyWords (g.withFlag name) args (g'.withFlag name) rest := by
  induction h with
  | done => exact .done _ _
  | command harg hl => exact .command harg hl
  | word harg hl hg _ ih => exact .word harg hl (Given.addWord_withFlag hg) (ih hname)
  | onlyWords harg _ ih => exact .onlyWords harg (ih hname)
  | @flag _ _ _ _ _ flag _ _ harg hg hrest ih =>
    have hflag : flag ∈ _ := hrest.flags_subset (Given.flags_of_setFlag hg ▸ List.mem_cons_self)
    have hne : flag ≠ name := fun heq => hname (heq ▸ hflag)
    exact .flag harg (Given.setFlag_withFlag hg hne) (ih hname)
  | attached harg hg _ ih => exact .attached harg (Given.setOption_withFlag hg) (ih hname)
  | separate harg hvalue hg _ ih =>
    exact .separate harg hvalue (Given.setOption_withFlag hg) (ih hname)

/-- What follows the name of a command is not looked at before it. -/
theorem exists_before {name : String} (h : Reads l onlyWords g args g' (name :: rest)) :
    ∃ before, args = before ++ name :: rest ∧
      ∀ rest', Reads l onlyWords g (before ++ name :: rest') g' (name :: rest') := by
  generalize hleft : name :: rest = left at h
  induction h with
  | done => cases hleft
  | command harg hl =>
    cases hleft
    exact ⟨[], rfl, fun _ => .command harg hl⟩
  | word harg hl hg _ ih =>
    obtain ⟨before, rfl, hbefore⟩ := ih hleft
    exact ⟨_ :: before, rfl, fun rest' => .word harg hl hg (hbefore rest')⟩
  | onlyWords harg _ ih =>
    obtain ⟨before, rfl, hbefore⟩ := ih hleft
    exact ⟨_ :: before, rfl, fun rest' => .onlyWords harg (hbefore rest')⟩
  | flag harg hg _ ih =>
    obtain ⟨before, rfl, hbefore⟩ := ih hleft
    exact ⟨_ :: before, rfl, fun rest' => .flag harg hg (hbefore rest')⟩
  | attached harg hg _ ih =>
    obtain ⟨before, rfl, hbefore⟩ := ih hleft
    exact ⟨_ :: before, rfl, fun rest' => .attached harg hg (hbefore rest')⟩
  | separate harg hvalue hg _ ih =>
    obtain ⟨before, rfl, hbefore⟩ := ih hleft
    exact ⟨_ :: _ :: before, rfl, fun rest' => .separate harg hvalue hg (hbefore rest')⟩

end Reads

/-! ## Command lines -/

/-- A command line is read up to the name of a command, and then after it. -/
theorem Invocation.ofArguments_eq_ok_iff {args : List String} {i : Invocation} :
    ofArguments args = .ok i ↔
      ∃ top name rest level given left command, Reads topLevel false .none args top (name :: rest) ∧
        name ≠ "help" ∧ levelOf? name = some level ∧ Reads level false .none rest given left ∧
        commandOf? name given = some command ∧
        i = ⟨given.schema.or top.schema, given.root.or top.root, command⟩ := by
  constructor
  · intro h
    obtain ⟨⟨top, left⟩, htop, h⟩ := bind_eq_ok_iff.mp h
    cases left with
    | nil => cases h
    | cons name rest =>
      by_cases hhelp : name = "help"
      · simp only [if_pos hhelp] at h
        cases h
      · simp only [if_neg hhelp] at h
        cases hlevel : levelOf? name with
        | none =>
          rw [hlevel] at h
          cases h
        | some level =>
          rw [hlevel] at h
          obtain ⟨⟨given, left⟩, hgiven, h⟩ := bind_eq_ok_iff.mp h
          dsimp only at h
          cases hcommand : commandOf? name given with
          | none =>
            rw [hcommand] at h
            cases h
          | some command =>
            rw [hcommand] at h
            cases h
            exact ⟨top, name, rest, level, given, left, command, reads_of_readLevel htop, hhelp,
              hlevel, reads_of_readLevel hgiven, hcommand, rfl⟩
  · rintro ⟨top, name, rest, level, given, left, command, htop, hhelp, hlevel, hgiven, hcommand, rfl⟩
    simp only [ofArguments, htop.readLevel, bind, Except.bind, if_neg hhelp, hlevel,
      hgiven.readLevel, hcommand]

theorem commandOf?_eq_check {name : String} {g : Given} {file : Option String} {flag : Bool}
    (h : commandOf? name g = some (.check file flag)) :
    name = "check" ∧ file = g.words.head? ∧ flag = g.flags.contains "no-deprecated" := by
  unfold commandOf? at h
  split at h
  all_goals cases h
  exact ⟨rfl, rfl, rfl⟩

/-- The flag can be added behind the name of the command. -/
theorem Invocation.exists_ofArguments_check {args : List String} {schema root file : Option String}
    (h : ofArguments args = .ok ⟨schema, root, .check file false⟩) :
    ∃ before rest, args = before ++ "check" :: rest ∧
      ofArguments (before ++ "check" :: "--no-deprecated" :: rest) =
        .ok ⟨schema, root, .check file true⟩ := by
  obtain ⟨top, name, rest, level, given, left, command, htop, hhelp, hlevel, hgiven, hcommand, hi⟩ :=
    ofArguments_eq_ok_iff.mp h
  cases hi
  obtain ⟨rfl, rfl, hflag⟩ := commandOf?_eq_check hcommand
  obtain ⟨before, rfl, hbefore⟩ := htop.exists_before
  have hname : "no-deprecated" ∉ given.flags := by simpa using hflag.symm
  have hfirst : argument level false "--no-deprecated" = .flag "no-deprecated" := by
    cases hlevel
    rfl
  have hset : Given.none.setFlag "no-deprecated" = .ok (Given.none.withFlag "no-deprecated") := rfl
  have hrest := Reads.flag hfirst hset (hgiven.withFlag hname)
  refine ⟨before, rest, rfl, ofArguments_eq_ok_iff.mpr ⟨top, _, _, level, _, left,
    .check given.words.head? true, hbefore _, hhelp, hlevel, hrest, ?_, rfl⟩⟩
  simp [commandOf?, Given.withFlag]

/-! ## Outcomes -/

theorem failure_check (r : Registry) (o o' : CheckOptions) (root : TypeId) (doc : Node) :
    (check r o root doc).failure = (check r o' root doc).failure := by
  simp only [check, r.filter_validate o o']

/-- A check that cannot be made fails for the same reason. -/
theorem failure_answer_check (schema root file : Option String) (s : Surroundings) :
    (Answer.ofExcept (answer ⟨schema, root, .check file true⟩ s)).failure =
      (Answer.ofExcept (answer ⟨schema, root, .check file false⟩ s)).failure := by
  have hschema : schemaOf ⟨schema, root, .check file true⟩ (.ofFile s.config) s =
      schemaOf ⟨schema, root, .check file false⟩ (.ofFile s.config) s := rfl
  simp only [answer, hschema]
  cases schemaOf ⟨schema, root, .check file false⟩ (.ofFile s.config) s with
  | error e => rfl
  | ok found =>
    cases documentOf file s with
    | error e => rfl
    | ok doc => exact failure_check found.1 _ _ found.2 doc

theorem Outcome.ofAnswer_congr {a b : Answer} (h : a.failure = b.failure) :
    (ofAnswer a).code = (ofAnswer b).code ∧ (ofAnswer a).error = (ofAnswer b).error := by
  unfold ofAnswer
  rw [h]
  cases b.failure <;> exact ⟨rfl, rfl⟩

/-- Without warnings the other reports are the same, in the same order, and so is the number of
errors. The flag can be added to any check on the command line, and wherever it stands, the check
ends in the same way. -/
theorem check_withoutDeprecated (r : Registry) (root : TypeId) (doc : Node) :
    r.validate ⟨false⟩ root doc =
        (r.validate ⟨true⟩ root doc).filter (fun d => d.severity ≠ .warning) ∧
      ((r.validate ⟨false⟩ root doc).filter Diagnostic.isError).length =
        ((r.validate ⟨true⟩ root doc).filter Diagnostic.isError).length ∧
      ∀ args schema rootName file,
        Invocation.ofArguments args = .ok ⟨schema, rootName, .check file false⟩ →
          (∃ before rest, args = before ++ "check" :: rest ∧
            Invocation.ofArguments (before ++ "check" :: "--no-deprecated" :: rest) =
              .ok ⟨schema, rootName, .check file true⟩) ∧
          ∀ args', Invocation.ofArguments args' = .ok ⟨schema, rootName, .check file true⟩ →
            ∀ s, (run args' s).code = (run args s).code ∧
              (run args' s).error = (run args s).error := by
  have herror : ∀ d : Diagnostic, d.isError = decide (d.severity ≠ .warning) := by
    intro d
    cases hd : d.severity <;> simp [Diagnostic.isError, hd]
  refine ⟨?_, ?_, ?_⟩
  · rw [r.validate_errors ⟨true⟩]
    exact List.filter_congr fun d _ => herror d
  · rw [r.filter_validate ⟨false⟩ ⟨true⟩]
  · intro args schema rootName file hargs
    refine ⟨Invocation.exists_ofArguments_check hargs, fun args' hargs' s => ?_⟩
    simp only [run, hargs, hargs']
    exact Outcome.ofAnswer_congr (failure_answer_check schema rootName file s)

/-- The port is deprecated and is no number, and the host is not known. The schema is named before the
command and the root type after it, and the flag stands between the root type and the document. -/
theorem check_withoutDeprecated_port :
    let r := ((Builder.new.bean "Config").2.addProperty ⟨5⟩
      ⟨"port", .integer, none, some ⟨none, none⟩⟩).2.build
    let doc : Node := .mapping [("port", .string "x"), ("host", .null)]
    let deprecated : Diagnostic := ⟨[.key "port"], .deprecated "port" none⟩
    let errors : List Diagnostic := [⟨[.key "port"], .invalidValue "x" "Integer"⟩,
      ⟨[.key "host"], .unknownProperty "host" "Config"⟩]
    let args := ["--schema=s.yaml", "check", "-r", "Config", "d.yaml"]
    let args' := ["--schema=s.yaml", "check", "-r", "Config", "--no-deprecated", "d.yaml"]
    r.validate ⟨true⟩ ⟨5⟩ doc = deprecated :: errors ∧ r.validate ⟨false⟩ ⟨5⟩ doc = errors ∧
      Invocation.ofArguments args =
        .ok ⟨some "s.yaml", some "Config", .check (some "d.yaml") false⟩ ∧
      Invocation.ofArguments args' =
        .ok ⟨some "s.yaml", some "Config", .check (some "d.yaml") true⟩ ∧
      ∀ s, (run args' s).code = (run args s).code ∧ (run args' s).error = (run args s).error := by
  intro r doc deprecated errors args args'
  have hargs : Invocation.ofArguments args =
      .ok ⟨some "s.yaml", some "Config", .check (some "d.yaml") false⟩ := by rfl
  have hargs' : Invocation.ofArguments args' =
      .ok ⟨some "s.yaml", some "Config", .check (some "d.yaml") true⟩ := by rfl
  have hwarned : r.validate ⟨true⟩ ⟨5⟩ doc = deprecated :: errors := by decide +kernel
  obtain ⟨hwithout, -, hrun⟩ := check_withoutDeprecated r ⟨5⟩ doc
  rw [hwarned] at hwithout
  exact ⟨hwarned, hwithout, hargs, hargs', (hrun args _ _ _ hargs).2 args' hargs'⟩

end TypedYaml.CommandLine
