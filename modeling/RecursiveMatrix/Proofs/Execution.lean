import Mathlib.Data.Finset.Range
import Mathlib.Data.Finset.Lattice.Fold
import Mathlib.Tactic.Choose
import RecursiveMatrix.CommandLine.Program
import RecursiveMatrix.Proofs.OpenSpans

namespace RecursiveMatrix

open Trace

/-- No code has a character in it that has to be escaped. -/
theorem Error.string_code (e : Error) : Text.Json.string e.code = "\"" ++ e.code ++ "\"" := by
  cases e <;> rw [code] <;> decide +kernel

namespace Generator

open Sampler

/-- Without a limit on rejections only the patience of the host can run out. -/
theorem exists_endless {g : Generator} {host : Host}
    (h : (g.generate host).outcome = .error .unfinished) :
    ∃ j < g.edgeCount.val.toNat, g.sampler.Rejects host.patience (freshAt g.seed j) := by
  have hl : g.sampler.retryLimit = none := by
    cases stops_of_generate h with
    | endless hl => exact hl
  by_contra hhope
  simp only [not_exists, not_and] at hhope
  rcases g.inPool_cases (α := List Edge) host with hw | ⟨threads, reason, -, -, hpool⟩
  · rw [← budget_of_none hl host.patience] at hhope
    obtain ⟨edges, hedges⟩ := generateEdges_of_hopeful hw hhope
    rw [generate_outcome, hedges] at h
    cases h
  · rw [generate_outcome, generateEdges, Run.outcome_within, hpool] at h
    cases h

/-- As long as no element has all its candidates outside, some patience is enough for an end. -/
theorem exists_patience_of_not_rejects {g : Generator}
    (h : ∀ j < g.edgeCount.val.toNat, ∃ n, ¬ g.sampler.Rejects n (freshAt g.seed j)) :
    ∃ least, ∀ host : Host, host.patience ≥ least → (g.generate host).outcome ≠ .error .unfinished := by
  choose! n hn using h
  -- the element that is outside for longest sets the patience that all of them need
  refine ⟨(Finset.range g.edgeCount.val.toNat).sup n, fun host hpatience hend => ?_⟩
  obtain ⟨j, hj, hrejects⟩ := exists_endless hend
  have hn_le : n j ≤ host.patience := Nat.le_trans (Finset.le_sup (Finset.mem_range.2 hj)) hpatience
  exact hn j hj (hrejects.mono hn_le)

end Generator

namespace CommandLine

open Generator Sampler

/-- What is told in the end of a command that fails with `e`. -/
def fatal (e : Error) : Event :=
  .note .error "rmat" "command execution failed"
    [("error", .shown "failed to execute command"), ("code", .shown e.code)]

def lastWords (filter : Log.Filter) (format : Log.Format) (e : Error) : List String :=
  if filter.admitsEvent [] (fatal e) then [(Log.bare (fatal e)).render format] else []

variable {host : Host} {env : Environment} {output : Output} {args : List String} {c : Generate}
  {format : Log.Format} {r : Run Summary} {s : Summary} {e : Error}

theorem ending_of_ok (h : r.outcome = .ok s) : ending .working r = ⟨0, Report.render s, r.signals⟩ := by
  simp only [ending, h]

theorem ending_of_failed (h : r.outcome = .error (.failed e)) (output : Output) :
    ending output r = ⟨1, "", r.signals ++ [.emitted (fatal e)]⟩ := by
  simp only [ending, h]
  rfl

theorem ending_of_unfinished (h : r.outcome = .error .unfinished) (output : Output) :
    ending output r = ⟨1, "", r.signals⟩ := by
  simp only [ending, h]

/-- How a command ends, and why. -/
inductive Generate.Ends (c : Generate) (host : Host) (filter : Log.Filter) (format : Log.Format)
    (x : Execution) : Prop
  | printed {g : Generator} {graph : Graph} {s : Summary} (outcome : (c.run host).outcome = .ok s)
      (valid : c.config.validate = .ok g) (generated : (g.generate host).outcome = .ok graph)
      (shows : s = ⟨c.format, g.scale, g.blockCount, g.seed, graph⟩)
      (exitCode : x.exitCode = 0) (stdout : x.stdout = Report.render s)
  | failed {e : Error} (outcome : (c.run host).outcome = .error (.failed e))
      (cause : c.config.validate = .error e ∨
        ∃ g, c.config.validate = .ok g ∧ (g.generate host).outcome = .error (.failed e))
      (exitCode : x.exitCode = 1) (stdout : x.stdout = "")
      (told : (ending .working (c.run host)).signals = (c.run host).signals ++ [.emitted (fatal e)])
      (stderr : x.stderr = (Log.linesOf filter (c.run host).signals).map (·.render format) ++
        lastWords filter format e)
  | endless {g : Generator} (outcome : (c.run host).outcome = .error .unfinished)
      (valid : c.config.validate = .ok g)
      (rejects : ∃ j < g.edgeCount.val.toNat, g.sampler.Rejects host.patience (freshAt g.seed j))
      (exitCode : x.exitCode = 1) (stdout : x.stdout = "")

namespace Generate

theorem ends_of_failed {filter : Log.Filter}
    (h : (c.run host).outcome = .error (.failed e)) (cause : c.config.validate = .error e ∨
      ∃ g, c.config.validate = .ok g ∧ (g.generate host).outcome = .error (.failed e)) :
    c.Ends host filter format ((ending .working (c.run host)).logged filter format) := by
  have hending := ending_of_failed h .working
  refine .failed h cause ?_ ?_ (congrArg Ending.signals hending) ?_
  · rw [hending, Ending.logged]
  · rw [hending, Ending.logged]
  · rw [hending, Ending.logged, Log.Writer.linesOf_emitted (c.steady_run filter host), List.map_append]
    unfold lastWords
    split <;> rfl

theorem ends (c : Generate) (host : Host) (filter : Log.Filter) (format : Log.Format) :
    c.Ends host filter format ((ending .working (c.run host)).logged filter format) := by
  cases hv : c.config.validate with
  | error e => exact ends_of_failed (outcome_of_invalid hv) (.inl hv)
  | ok g =>
      have hrun : (c.run host).outcome = _ := outcome_of_valid hv
      cases ho : (g.generate host).outcome with
      | ok graph =>
          rw [ho] at hrun
          have hending := ending_of_ok hrun
          refine .printed hrun hv ho rfl ?_ ?_
          · rw [hending, Ending.logged]
          · rw [hending, Ending.logged]
      | error stop =>
          rw [ho] at hrun
          cases stop with
          | failed e => exact ends_of_failed hrun (.inr ⟨g, hv, ho⟩)
          | unfinished =>
              have hending := ending_of_unfinished hrun .working
              refine .endless hrun hv (exists_endless ho) ?_ ?_
              · rw [hending, Ending.logged]
              · rw [hending, Ending.logged]

/-- The ending `endless` stands for a process that does not come to an end. A host that is patient enough
never sees it, unless the work goes on for ever. -/
theorem succeeds_or_fails_of_patience (h : ∀ g, c.config.validate = .ok g →
      ∀ j < g.edgeCount.val.toNat, ∃ n, ¬ g.sampler.Rejects n (freshAt g.seed j)) :
    ∃ least, ∀ host : Host, host.patience ≥ least →
      (∃ s, (c.run host).outcome = .ok s) ∨ ∃ e, (c.run host).outcome = .error (.failed e) := by
  cases hv : c.config.validate with
  | error e => exact ⟨0, fun host _ => .inr ⟨e, outcome_of_invalid hv⟩⟩
  | ok g =>
      obtain ⟨least, hends⟩ := exists_patience_of_not_rejects (h g hv)
      refine ⟨least, fun host hpatience => ?_⟩
      have hrun : (c.run host).outcome = _ := outcome_of_valid hv
      cases ho : (g.generate host).outcome with
      | ok graph =>
          rw [ho] at hrun
          exact .inl ⟨_, hrun⟩
      | error stop =>
          rw [ho] at hrun
          cases stop with
          | failed e => exact .inr ⟨e, hrun⟩
          | unfinished => exact absurd ho (hends host hpatience)

end Generate

theorem execute_of_misconfigured {fault : Log.SetupError}
    (h : Log.Format.ofSetting env.logFormat = .error fault) : execute host env output args =
      ⟨1, "", ["failed to initialize logging: " ++ fault.message]⟩ := by
  rw [execute, h]

theorem execute_of_rejected (hf : Log.Format.ofSetting env.logFormat = .ok format)
    {rejection : Rejection} (hp : parse args = .error rejection) (hr : rejection ≠ .help) :
    execute host env output args = ⟨2, "", ["error: " ++ rejection.message, usage]⟩ := by
  rw [execute, hf, hp]
  cases rejection with
  | help => exact absurd rfl hr
  | _ => rfl

theorem execute_of_parsed (hf : Log.Format.ofSetting env.logFormat = .ok format)
    (hp : parse args = .ok c) : execute host env output args =
      (ending output (c.run host)).logged (.ofSetting env.logFilter) format := by
  rw [execute, hf, hp]

theorem admits_fatal (e : Error) : (Log.Filter.ofSetting .unset).admitsEvent [] (fatal e) = true := rfl

theorem lastWords_human (e : Error) : lastWords (.ofSetting .unset) .human e =
    ["ERROR rmat: command execution failed error=failed to execute command code=" ++ e.code] := by
  rw [lastWords, if_pos (admits_fatal e)]
  cases e <;> rfl

theorem lastWords_json (e : Error) : lastWords (.ofSetting .unset) .json e =
    [Text.Json.object [("level", "\"ERROR\""), ("fields", Text.Json.object
      [("message", "\"command execution failed\""), ("error", "\"failed to execute command\""),
        ("code", "\"" ++ e.code ++ "\"")]), ("target", "\"rmat\"")]] := by
  have hlevel : Text.Json.string "ERROR" = "\"ERROR\"" := by decide
  have hmessage : Text.Json.string "command execution failed" = "\"command execution failed\"" := by
    decide
  have herror : Text.Json.string "failed to execute command" = "\"failed to execute command\"" := by
    decide
  have htarget : Text.Json.string "rmat" = "\"rmat\"" := by decide
  rw [lastWords, if_pos (admits_fatal e), ← e.string_code, ← hlevel, ← hmessage, ← herror, ← htarget]
  rfl

theorem Generate.Ends.all_or_nothing {filter : Log.Filter} {x : Execution}
    (h : c.Ends host filter format x) :
    (x.exitCode = 0 ∧ ∃ s, (c.run host).outcome = .ok s ∧ x.stdout = Report.render s) ∨
      x.exitCode ≠ 0 ∧ x.stdout = "" := by
  cases h with
  | printed outcome _ _ _ exitCode stdout => exact .inl ⟨exitCode, _, outcome, stdout⟩
  | failed _ _ exitCode stdout => exact .inr ⟨by simp [exitCode], stdout⟩
  | endless _ _ _ exitCode stdout => exact .inr ⟨by simp [exitCode], stdout⟩

/-- Either the whole report is printed and the process succeeds, or nothing is printed and it fails. Log
settings that cannot be read are found first, whatever the arguments are, and then arguments that are not
accepted. The last line of a command that fails has the code of what went wrong. -/
theorem prints_all_or_nothing (host : Host) (env : Environment) {args : List String}
    (hhelp : parse args ≠ .error .help) :
    (((execute host env .working args).exitCode = 0 ∧ ∃ format c s,
        Log.Format.ofSetting env.logFormat = .ok format ∧ parse args = .ok c ∧
        (c.run host).outcome = .ok s ∧ (execute host env .working args).stdout = Report.render s) ∨
      (execute host env .working args).exitCode ≠ 0 ∧ (execute host env .working args).stdout = "") ∧
    (∀ fault, Log.Format.ofSetting env.logFormat = .error fault → ∀ args',
      execute host env .working args' =
        ⟨1, "", ["failed to initialize logging: " ++ fault.message]⟩) ∧
    (∀ format, Log.Format.ofSetting env.logFormat = .ok format →
      (∀ rejection, parse args = .error rejection →
        execute host env .working args = ⟨2, "", ["error: " ++ rejection.message, usage]⟩) ∧
      ∀ c, parse args = .ok c →
        c.Ends host (.ofSetting env.logFilter) format (execute host env .working args)) ∧
    ∀ e, lastWords (.ofSetting .unset) .human e =
        ["ERROR rmat: command execution failed error=failed to execute command code=" ++ e.code] ∧
      lastWords (.ofSetting .unset) .json e = [Text.Json.object [("level", "\"ERROR\""),
        ("fields", Text.Json.object [("message", "\"command execution failed\""),
          ("error", "\"failed to execute command\""), ("code", "\"" ++ e.code ++ "\"")]),
        ("target", "\"rmat\"")]] := by
  have hrejected (format) (hf : Log.Format.ofSetting env.logFormat = .ok format) (rejection)
      (hp : parse args = .error rejection) : execute host env .working args =
        ⟨2, "", ["error: " ++ rejection.message, usage]⟩ := by
    apply execute_of_rejected hf hp
    rintro rfl
    exact hhelp hp
  have hends (format) (hf : Log.Format.ofSetting env.logFormat = .ok format) (c) (hp : parse args = .ok c) :
      c.Ends host (.ofSetting env.logFilter) format (execute host env .working args) := by
    rw [execute_of_parsed hf hp]
    exact c.ends host _ format
  refine ⟨?_, fun fault hf args' => execute_of_misconfigured hf,
    fun format hf => ⟨hrejected format hf, hends format hf⟩, fun e => ⟨lastWords_human e, lastWords_json e⟩⟩
  cases hf : Log.Format.ofSetting env.logFormat with
  | error fault =>
      rw [execute_of_misconfigured hf]
      exact .inr ⟨by simp, rfl⟩
  | ok format =>
      cases hp : parse args with
      | error rejection =>
          rw [hrejected format hf rejection hp]
          exact .inr ⟨by simp, rfl⟩
      | ok c =>
          rcases (hends format hf c hp).all_or_nothing with ⟨hcode, s, hs, hout⟩ | hnothing
          · exact .inl ⟨hcode, format, c, s, rfl, rfl, hs, hout⟩
          · exact .inr hnothing

/-- The arguments that ask for seven edges between so many vertices. -/
def fiveArgs (vertexCount : String) : List String :=
  ["generate", "--vertex-count", vertexCount, "--edge-count", "7", "--seed", "7", "--format", "summary"]

theorem prints_all_or_nothing_five :
    (∀ args, execute {} { logFormat := .text "xml" } .working args =
      ⟨1, "", ["failed to initialize logging: " ++ (Log.SetupError.unsupportedFormat "xml").message]⟩) ∧
    (execute {} {} .working ["generate"]).exitCode = 2 ∧
    (∃ before, (execute {} {} .working (fiveArgs "0")).stderr = before ++
      ["ERROR rmat: command execution failed error=failed to execute command code=" ++
        "RMAT_INVALID_VERTEX_COUNT"]) ∧
    ∃ s, ((Generate.five 5 none).run { patience := 3 }).outcome = .ok s ∧
      (execute { patience := 3 } {} .working (fiveArgs "5")).exitCode = 0 ∧
      (execute { patience := 3 } {} .working (fiveArgs "5")).stdout = Report.render s := by
  have hxml : Log.Format.ofSetting (.text "xml") = .error (.unsupportedFormat "xml") := rfl
  have hnone : parse [] = .error .missingCommand := rfl
  have hbare : parse ["generate"] = .error (.missingRequired [.vertexCount, .edgeCount]) := rfl
  have hzero : parse (fiveArgs "0") = .ok (Generate.five 0 none) := rfl
  have hfive : parse (fiveArgs "5") = .ok (Generate.five 5 none) := rfl
  refine ⟨?_, ?_, ?_, ?_⟩
  · have hhelp : parse [] ≠ .error .help := by simp [hnone]
    exact (prints_all_or_nothing {} { logFormat := .text "xml" } hhelp).2.1 _ hxml
  · have hhelp : parse ["generate"] ≠ .error .help := by simp [hbare]
    rw [((prints_all_or_nothing {} {} hhelp).2.2.1 .human rfl).1 _ hbare]
  · have hhelp : parse (fiveArgs "0") ≠ .error .help := by simp [hzero]
    have hinvalid : (Generate.five 0 none).config.validate = .error (.vertexCount 0) := rfl
    have hrun : ((Generate.five 0 none).run {}).outcome = _ := Generate.outcome_of_invalid hinvalid
    obtain ⟨-, -, hparsed, hlast⟩ := prints_all_or_nothing {} {} hhelp
    cases (hparsed .human rfl).2 _ hzero with
    | printed outcome => exact nomatch hrun.symm.trans outcome
    | endless outcome => exact nomatch hrun.symm.trans outcome
    | failed outcome _ _ _ _ stderr =>
        obtain rfl := Stop.failed.inj (Except.error.inj (hrun.symm.trans outcome))
        rw [stderr]
        exact ⟨_, congrArg _ (hlast (.vertexCount 0)).1⟩
  · have hhelp : parse (fiveArgs "5") ≠ .error .help := by simp [hfive]
    let g : Generator := { (Generator.five .one).limited none with maxBlockCount := ⟨0x8000, by decide⟩ }
    have hvalid : (Generate.five 5 none).config.validate = .ok g := rfl
    obtain ⟨edges, hedges⟩ : ∃ edges, (g.generateEdges { patience := 3 }).outcome = .ok edges := by
      refine generateEdges_of_hopeful (.inl rfl) ?_
      decide +kernel
    have hgraph : (g.generate { patience := 3 }).outcome = .ok (.ofEdges edges) := by
      rw [generate_outcome, hedges]
      rfl
    have hrun : ((Generate.five 5 none).run { patience := 3 }).outcome = _ :=
      Generate.outcome_of_valid hvalid
    rw [hgraph] at hrun
    obtain ⟨-, -, hparsed, -⟩ := prints_all_or_nothing { patience := 3 } {} hhelp
    cases (hparsed .human rfl).2 _ hfive with
    | printed outcome _ _ _ exitCode stdout => exact ⟨_, outcome, exitCode, stdout⟩
    | endless outcome => exact nomatch hrun.symm.trans outcome
    | failed outcome => exact nomatch hrun.symm.trans outcome

end CommandLine

end RecursiveMatrix
