import RecursiveMatrix.Proofs.Arguments
import RecursiveMatrix.Proofs.Phases
import RecursiveMatrix.Proofs.Tally
import RecursiveMatrix.Proofs.Transcript

namespace RecursiveMatrix

namespace Generator

/-- A run that comes to edges has finished all its blocks, and the edges are theirs. -/
theorem exists_completes_edges {g : Generator} {host : Host} {edges : List Edge}
    (h : (g.generateEdges host).outcome = .ok edges) :
    ∃ done, g.blocks = .ok (done.map Prod.fst) ∧ g.sampler.Completes host.patience done ∧
      edges = done.flatMap (·.2.edges) ∧ done.length = g.blockCount.toNat := by
  obtain ⟨done, hblocks, hdone, -⟩ := exists_completes h
  have hrun := runBlocks_of_generateEdges h
  rw [runBlocks_outcome hblocks, Sampler.runBlocks_of_completes hdone] at hrun
  have hlen := length_blocks hblocks
  rw [List.length_map] at hlen
  exact ⟨done, hblocks, hdone, (Except.ok.inj hrun).symm, hlen⟩

end Generator

namespace CommandLine

namespace Generate

open Generator

variable {c : Generate} {g : Generator} {host : Host} {x : Graph}

/-- The settings of the command as changes to a configuration that has only its two counts. -/
def changes (c : Generate) : List Config.Change :=
  [.constants c.a c.b c.c,
    match c.noise with
    | some magnitude => .noise true magnitude
    | none => .noise false Noise.defaultMagnitude,
    .seed c.seed] ++ (c.parallelism.map Config.Change.parallelism).toList

def built (c : Generate) : Except Error Generator :=
  (c.changes.foldl Config.apply { vertexCount := c.vertexCount, edgeCount := c.edgeCount }).validate

theorem built_eq (c : Generate) : c.built = c.config.validate := by
  obtain ⟨v, e, a, b, c, noise, seed, parallelism, format⟩ := c
  cases noise <;> cases parallelism <;> rfl

theorem run_counters_of_ok (h : c.config.validate = .ok g) (hx : (g.generate host).outcome = .ok x) :
    (c.run host).counters = (g.generate host).counters := by
  have hgenerate : (c.generate host).counters = (g.generate host).counters := by
    rw [generate, h, Run.bind_of_ok (a := g) rfl, Run.bind_of_ok hx]
    exact Counters.empty_add _
  rw [run, Run.bind_of_ok (a := ()) rfl, ← hgenerate]
  exact Counters.empty_add _

/-- The command comes to what the library comes to with the same settings. -/
structure Agrees (c : Generate) (host : Host) : Prop where
  refused : ∀ e, c.built = .error e → (c.run host).outcome = .error (.failed e)
  stopped : ∀ g stop, c.built = .ok g → (g.generate host).outcome = .error stop →
    (c.run host).outcome = .error stop
  generated : ∀ g x, c.built = .ok g → (g.generate host).outcome = .ok x →
    ∃ s : Summary, (c.run host).outcome = .ok s ∧ s.graph = x ∧ s.scale = g.scale ∧ s.seed = g.seed ∧
      s.format = c.format ∧ s.blocks.toNat = (c.run host).counters.blocks ∧
      ∃ done, g.blocks = .ok (done.map Prod.fst) ∧ g.sampler.Completes host.patience done ∧
        x = .ofEdges (done.flatMap (·.2.edges)) ∧ s.blocks.toNat = done.length

theorem agrees (c : Generate) (host : Host) : c.Agrees host where
  refused e h := outcome_of_invalid (c.built_eq ▸ h)
  stopped g stop h hstop := by
    rw [outcome_of_valid (c.built_eq ▸ h), hstop]
    rfl
  generated g x h hx := by
    have hvalid : c.config.validate = .ok g := c.built_eq ▸ h
    have hrun : (c.run host).outcome = _ := outcome_of_valid hvalid
    obtain ⟨edges, hedges⟩ := exists_generateEdges_of_generate hx
    obtain ⟨done, hblocks, hdone, rfl, hlen⟩ := exists_completes_edges hedges
    have hcount : (c.run host).counters.blocks = g.blockCount.toNat := by
      rw [run_counters_of_ok hvalid hx, generate_counters, generateEdges_counters_of_ok hedges]
      rfl
    have hgraph : x = .ofEdges (done.flatMap (·.2.edges)) := by
      rw [generate_outcome, hedges] at hx
      exact (Except.ok.inj hx).symm
    rw [hx] at hrun
    exact ⟨_, hrun, rfl, rfl, rfl, rfl, hcount.symm, done, hblocks, hdone, hgraph, hlen.symm⟩

end Generate

/-- Whatever is asked for, in whatever order and however it is written, the command has the values that
were given and the defaults for the rest, and comes to what the library comes to with them. -/
theorem command_agrees_with_library {choices : List Choice} (h : Choice.Proper choices) :
    ∃ c, parse ("generate" :: choices.flatMap Choice.args) = .ok c ∧
      (∀ ch ∈ choices, ∃ v, ch.opt.Reads ch.text v ∧ c.value ch.opt = some v) ∧
      (∀ o, o ∉ choices.map Choice.opt → c.value o = o.fallback) ∧
      (∀ others, Choice.Proper others →
        (∀ said, said ∈ others.map Choice.said ↔ said ∈ choices.map Choice.said) →
        parse ("generate" :: others.flatMap Choice.args) = .ok c) ∧
      ∀ host, c.Agrees host := by
  obtain ⟨c, hparse, hgiven, hothers⟩ := parse_args h
  exact ⟨c, hparse, hgiven, hothers, fun others hproper hsaid => (parse_args_said h hproper hsaid).trans hparse,
    c.agrees⟩

/-- Seven edges between five vertices, asked for in no particular order. -/
def fiveChoices (joined : Bool) : List Choice :=
  [⟨.seed, "7", joined⟩, ⟨.a, ".5", !joined⟩, ⟨.edgeCount, "+7", !joined⟩, ⟨.noise, "1E-1", joined⟩,
    ⟨.format, "summary", joined⟩, ⟨.b, "25e-2", joined⟩, ⟨.vertexCount, "5", !joined⟩,
    ⟨.c, "+0.125", !joined⟩]

def Generate.halved : Generate :=
  { Generate.five 5 none with a := 0.5, b := 0.25, c := 0.125, noise := some 0.1 }

theorem command_agrees_with_library_five :
    Choice.Proper (fiveChoices true) ∧
    parse ["generate", "--seed=7", "--a", ".5", "--edge-count", "+7", "--noise=1E-1", "--format=summary",
      "--b=25e-2", "--vertex-count", "5", "--c", "+0.125"] = .ok Generate.halved ∧
    parse ["generate", "--c=+0.125", "--vertex-count=5", "--b", "25e-2", "--format", "summary", "--noise",
      "1E-1", "--edge-count=+7", "--a=.5", "--seed", "7"] = .ok Generate.halved ∧
    (∀ ch ∈ fiveChoices true, ∃ v, ch.opt.Reads ch.text v ∧ Generate.halved.value ch.opt = some v) ∧
    (Binary32.value? Generate.halved.a = some (1 / 2) ∧ Binary32.value? Generate.halved.b = some (1 / 4) ∧
      Binary32.value? Generate.halved.c = some (1 / 8)) ∧
    ∃ s : Summary, (Generate.halved.run { patience := 3 }).outcome = .ok s ∧ s.seed = 7 ∧
      s.blocks.toNat = (Generate.halved.run { patience := 3 }).counters.blocks := by
  have hword {text : String} {w : UInt64} (h : Decimal.readWord text.toList = .ok w) :
      Decimal.Numeral text.toList w.toNat := Decimal.readWord_eq_ok_iff.1 h
  have hsingle {text : String} {x : Float32} (h : Decimal.readSingle text.toList = .ok x) :
      Decimal.SingleNumeral text.toList x := Decimal.readSingle_eq_ok_iff.1 h
  have hreadable (joined : Bool) : ∀ ch ∈ fiveChoices joined, ∃ v, ch.opt.Reads ch.text v := by
    simp only [fiveChoices, List.forall_mem_cons]
    have hseven : Opt.Reads .seed "7" (.word 7) := hword rfl
    have hplus : Opt.Reads .edgeCount "+7" (.word 7) := hword rfl
    have hfive : Opt.Reads .vertexCount "5" (.word 5) := hword rfl
    have ha : Opt.Reads .a ".5" (.single 0.5) := hsingle rfl
    have hb : Opt.Reads .b "25e-2" (.single 0.25) := hsingle rfl
    have hc : Opt.Reads .c "+0.125" (.single 0.125) := hsingle rfl
    have hnoise : Opt.Reads .noise "1E-1" (.single 0.1) := hsingle rfl
    exact ⟨⟨_, hseven⟩, ⟨_, ha⟩, ⟨_, hplus⟩, ⟨_, hnoise⟩, ⟨.format .summary, rfl⟩, ⟨_, hb⟩, ⟨_, hfive⟩,
      ⟨_, hc⟩, List.forall_mem_nil _⟩
  have hproper : Choice.Proper (fiveChoices true) :=
    ⟨by decide, by decide, by decide, hreadable true, by decide⟩
  have hproper' : Choice.Proper (fiveChoices false).reverse :=
    ⟨by decide, by decide, by decide, fun ch hch => hreadable false ch (List.mem_reverse.1 hch), by decide⟩
  have hsaid : ((fiveChoices false).reverse.map Choice.said).Perm ((fiveChoices true).map Choice.said) := by
    decide
  obtain ⟨c, hparse, hgiven, -, hothers, hagrees⟩ := command_agrees_with_library hproper
  have hhalved : parse ("generate" :: (fiveChoices true).flatMap Choice.args) = .ok Generate.halved := rfl
  obtain rfl := Except.ok.inj (hhalved.symm.trans hparse)
  have hpower {x : Float32} {e : ℤ} (h : x.toModel.unpack = .finite .positive (2 ^ 23) e (by decide)) :
      Binary32.value? x = some (2 ^ 23 * 2 ^ e) := by
    rw [Binary32.value?_of_unpack h]
    norm_num [Float.Model.UnpackedFloat.Sign.apply]
  have hvalues : Binary32.value? Generate.halved.a = some (1 / 2) ∧
      Binary32.value? Generate.halved.b = some (1 / 4) ∧ Binary32.value? Generate.halved.c = some (1 / 8) := by
    refine ⟨(hpower (e := -24) rfl).trans ?_, (hpower (e := -25) rfl).trans ?_,
      (hpower (e := -26) rfl).trans ?_⟩ <;> norm_num
  let z : Sampler := ⟨⟨5, by decide⟩, ⟨0.5, 0.25, 0.125, by decide, by decide, by decide⟩,
    ⟨true, 0.1, by decide, by decide⟩, none⟩
  let g : Generator := ⟨⟨7, by decide⟩, z, 7, none, ⟨0x8000, by decide⟩⟩
  obtain ⟨edges, hedges⟩ : ∃ edges, (g.generateEdges { patience := 3 }).outcome = .ok edges := by
    refine Generator.generateEdges_of_hopeful (.inl rfl) ?_
    decide +kernel
  have hgraph : (g.generate { patience := 3 }).outcome = .ok (.ofEdges edges) := by
    rw [Generator.generate_outcome, hedges]
    rfl
  obtain ⟨s, hrun, -, -, hseed, -, hblocks, -⟩ := (hagrees { patience := 3 }).generated g _ rfl hgraph
  exact ⟨hproper, hparse, hothers _ hproper' fun said => hsaid.mem_iff, hgiven, hvalues, s, hrun, hseed,
    hblocks⟩

end CommandLine

end RecursiveMatrix
