import Mathlib.Data.List.TakeDrop
import Mathlib.Logic.Function.Basic
import RecursiveMatrix.CommandLine.Parser
import RecursiveMatrix.Proofs.SingleNumerals

namespace RecursiveMatrix.CommandLine

/-- What an option can stand for. -/
inductive Value
  | word (w : UInt64)
  | single (x : Float32)
  | format (f : OutputFormat)

def formatWord : OutputFormat → String
  | .edges => "edges"
  | .summary => "summary"

namespace Opt

/-- What a text says where it is given for the option. -/
def Reads : Opt → String → Value → Prop
  | vertexCount, text, .word w | edgeCount, text, .word w | seed, text, .word w
  | parallelism, text, .word w => Decimal.Numeral text.toList w.toNat
  | a, text, .single x | b, text, .single x | c, text, .single x
  | noise, text, .single x => Decimal.SingleNumeral text.toList x
  | format, text, .format f => text = formatWord f
  | _, _, _ => False

/-- What holds where the option is not given. -/
def fallback : Opt → Option Value
  | a => some (.single Probabilities.defaultA)
  | b => some (.single Probabilities.defaultB)
  | c => some (.single Probabilities.defaultC)
  | seed => some (.word defaultSeed)
  | format => some (.format .edges)
  | vertexCount | edgeCount | noise | parallelism => none

theorem name_plain (o : Opt) : ∀ ch ∈ o.name.toList, decide (ch ≠ '=') = true := by
  have hall : o.name.toList.all (· ≠ '=') = true := by cases o <;> rfl
  exact List.all_eq_true.1 hall

end Opt

/-- What an option stands for so far. -/
def Given.value (g : Given) : Opt → Option Value
  | .vertexCount => g.vertexCount.map .word
  | .edgeCount => g.edgeCount.map .word
  | .a => g.a.map .single
  | .b => g.b.map .single
  | .c => g.c.map .single
  | .noise => g.noise.map .single
  | .seed => g.seed.map .word
  | .parallelism => g.parallelism.map .word
  | .format => g.format.map .format

def Generate.value (c : Generate) : Opt → Option Value
  | .vertexCount => some (.word c.vertexCount)
  | .edgeCount => some (.word c.edgeCount)
  | .a => some (.single c.a)
  | .b => some (.single c.b)
  | .c => some (.single c.c)
  | .noise => c.noise.map .single
  | .seed => some (.word c.seed)
  | .parallelism => c.parallelism.map .word
  | .format => some (.format c.format)

namespace Given

variable {g : Given} {o : Opt} {text : String} {v : Value}

theorem has_eq (g : Given) (o : Opt) : g.has o = (g.value o).isSome := by
  cases o <;> exact Option.isSome_map.symm

theorem readWord_of_numeral (o : Opt) {w : UInt64} (h : Decimal.Numeral text.toList w.toNat) :
    readWord o text = .ok w := by
  rw [readWord, Decimal.readWord_eq_ok_iff.2 h]
  rfl

theorem readSingle_of_numeral (o : Opt) {x : Float32} (h : Decimal.SingleNumeral text.toList x) :
    readSingle o text = .ok x := by
  rw [readSingle, Decimal.readSingle_eq_ok_iff.2 h]
  rfl

theorem readFormat_formatWord (f : OutputFormat) : readFormat (formatWord f) = .ok f := by
  cases f <;> rfl

theorem read_of_reads (g : Given) (h : o.Reads text v) :
    ∃ g', g.read o text = .ok g' ∧ g'.value = Function.update g.value o (some v) := by
  cases o with
  | vertexCount | edgeCount | seed | parallelism =>
      cases v with
      | single | format => exact h.elim
      | word w =>
          refine ⟨_, by rw [read, readWord_of_numeral _ h]; rfl, funext fun o => ?_⟩
          cases o <;> rfl
  | a | b | c | noise =>
      cases v with
      | word | format => exact h.elim
      | single x =>
          refine ⟨_, by rw [read, readSingle_of_numeral _ h]; rfl, funext fun o => ?_⟩
          cases o <;> rfl
  | format =>
      cases v with
      | word | single => exact h.elim
      | format f =>
          obtain rfl : text = formatWord f := h
          refine ⟨_, by rw [read, readFormat_formatWord]; rfl, funext fun o => ?_⟩
          cases o <;> rfl

theorem give_of_reads (hfree : g.value o = none) (h : o.Reads text v) :
    ∃ g', g.give o text = .ok g' ∧ g'.value = Function.update g.value o (some v) := by
  rw [give, has_eq, hfree]
  exact g.read_of_reads h

theorem finish_of_required (hv : g.value .vertexCount ≠ none) (he : g.value .edgeCount ≠ none) :
    ∃ c, g.finish = .ok c ∧ ∀ o, c.value o = (g.value o).or o.fallback := by
  obtain ⟨_ | vertexCount, _ | edgeCount, a, b, c, noise, seed, parallelism, format⟩ := g
  · exact absurd rfl hv
  · exact absurd rfl hv
  · exact absurd rfl he
  · refine ⟨_, rfl, fun o => ?_⟩
    cases o with
    | vertexCount | edgeCount => rfl
    | a => cases a <;> rfl
    | b => cases b <;> rfl
    | c => cases c <;> rfl
    | noise => cases noise <;> rfl
    | seed => cases seed <;> rfl
    | parallelism => cases parallelism <;> rfl
    | format => cases format <;> rfl

end Given

theorem Opt.reads_unique {o : Opt} {text : String} {v v' : Value} (h : o.Reads text v)
    (h' : o.Reads text v') : v = v' := by
  obtain ⟨g, hg, hv⟩ := Given.read_of_reads {} h
  obtain ⟨g', hg', hv'⟩ := Given.read_of_reads {} h'
  obtain rfl := Except.ok.inj (hg.symm.trans hg')
  exact Option.some.inj (Function.update_injective _ o (hv.symm.trans hv'))

theorem Generate.eq_of_value {c c' : Generate} (h : ∀ o, c.value o = c'.value o) : c = c' := by
  have hword : Function.Injective Value.word := fun _ _ => Value.word.inj
  have hsingle : Function.Injective Value.single := fun _ _ => Value.single.inj
  have hformat : Function.Injective Value.format := fun _ _ => Value.format.inj
  cases c
  cases c'
  rw [Generate.mk.injEq]
  exact ⟨hword (Option.some.inj (h .vertexCount)), hword (Option.some.inj (h .edgeCount)),
    hsingle (Option.some.inj (h .a)), hsingle (Option.some.inj (h .b)), hsingle (Option.some.inj (h .c)),
    Option.map_injective hsingle (h .noise), hword (Option.some.inj (h .seed)),
    Option.map_injective hword (h .parallelism), hformat (Option.some.inj (h .format))⟩

/-- An option as it is written among the arguments, joined to its value or before it. -/
structure Choice where
  opt : Opt
  text : String
  joined : Bool

namespace Choice

def args (ch : Choice) : List String :=
  if ch.joined then ["--" ++ ch.opt.name ++ "=" ++ ch.text] else ["--" ++ ch.opt.name, ch.text]

/-- What is asked for, however it is written. -/
def said (ch : Choice) : Opt × String := (ch.opt, ch.text)

/-- Each option is given once and with a value of its kind, and one that begins with a dash is joined to
its option. -/
structure Proper (choices : List Choice) : Prop where
  once : (choices.map opt).Nodup
  vertexCount : .vertexCount ∈ choices.map opt
  edgeCount : .edgeCount ∈ choices.map opt
  readable : ∀ ch ∈ choices, ∃ v, ch.opt.Reads ch.text v
  dashed : ∀ ch ∈ choices, ch.joined = false → ch.text.toList.head? ≠ some '-'

end Choice

theorem token_of_joined (o : Opt) (text : String) :
    Token.of ("--" ++ o.name ++ "=" ++ text) = .long o.name (some text) := by
  have hspan : (o.name.toList ++ '=' :: text.toList).span (· ≠ '=') = (o.name.toList, '=' :: text.toList) := by
    rw [List.span_eq_takeWhile_dropWhile, List.takeWhile_append_of_pos o.name_plain,
      List.dropWhile_append_of_pos o.name_plain]
    simp
  have hlist : ("--" ++ o.name ++ "=" ++ text).toList =
      '-' :: '-' :: (o.name.toList ++ '=' :: text.toList) := by
    simp [String.toList_append]
  rw [Token.of, hlist]
  split
  next h => simp at h
  next cs _ h =>
    obtain rfl := (List.cons.inj (List.cons.inj h).2).2
    rw [hspan]
    simp
  next hdash h => exact absurd (List.cons.inj (List.cons.inj h).2).1.symm hdash
  next _ hlong _ => exact (hlong _ rfl).elim

theorem token_of_name (o : Opt) : Token.of ("--" ++ o.name) = .long o.name none := by
  cases o <;> decide

theorem token_of_word {text : String} (h : text.toList.head? ≠ some '-') : Token.of text = .word text := by
  rw [Token.of]
  split
  next heq => exact absurd (congrArg List.head? heq) h
  next heq => exact absurd (congrArg List.head? heq) h
  next heq => exact absurd (congrArg List.head? heq) h
  next => rfl

variable {choices : List Choice} {g : Given}

theorem readOptions_joined (g : Given) (p : Pending) (o : Opt) (text : String) (args : List String) :
    readOptions g p (("--" ++ o.name ++ "=" ++ text) :: args) =
      settle g p >>= fun g => g.give o text >>= fun g => readOptions g none args := by
  rw [readOptions.eq_def]
  simp only [token_of_joined, Opt.ofName?_name]

theorem readOptions_detached (g : Given) (p : Pending) (o : Opt) {text : String}
    (h : text.toList.head? ≠ some '-') (args : List String) :
    readOptions g p (("--" ++ o.name) :: text :: args) =
      settle g p >>= fun g => readOptions g (some (o, some text)) args := by
  rw [readOptions.eq_def]
  simp only [token_of_name, Opt.ofName?_name]
  refine congrArg _ (funext fun g => ?_)
  rw [readOptions.eq_def]
  simp only [token_of_word h]

theorem readOptions_args (h : ∀ ch ∈ choices, ch.joined = false → ch.text.toList.head? ≠ some '-')
    (g : Given) (p : Pending) : readOptions g p (choices.flatMap Choice.args) =
      settle g p >>= choices.foldlM fun g ch => g.give ch.opt ch.text := by
  induction choices generalizing g p with
  | nil => exact (bind_pure (settle g p)).symm
  | cons ch choices ih =>
      obtain ⟨hch, hchoices⟩ := List.forall_mem_cons.1 h
      rw [List.flatMap_cons, Choice.args]
      cases hjoined : ch.joined with
      | true =>
          rw [if_pos rfl, List.singleton_append, readOptions_joined]
          refine congrArg _ (funext fun g => ?_)
          rw [List.foldlM_cons]
          exact congrArg _ (funext fun g => ih hchoices g none)
      | false =>
          -- The option stays pending with its value, and the rest settles it first.
          rw [if_neg Bool.false_ne_true, List.cons_append, List.singleton_append,
            readOptions_detached g p ch.opt (hch hjoined)]
          refine congrArg _ (funext fun g => ?_)
          rw [ih hchoices, List.foldlM_cons]
          rfl

/-- Options that are not given yet are taken up with their values, and the others stay as they are. -/
theorem foldlM_give (honce : (choices.map Choice.opt).Nodup)
    (hreadable : ∀ ch ∈ choices, ∃ v, ch.opt.Reads ch.text v)
    (hfree : ∀ ch ∈ choices, g.value ch.opt = none) :
    ∃ g', choices.foldlM (fun g ch => g.give ch.opt ch.text) g = .ok g' ∧
      (∀ ch ∈ choices, ∃ v, ch.opt.Reads ch.text v ∧ g'.value ch.opt = some v) ∧
      ∀ o, o ∉ choices.map Choice.opt → g'.value o = g.value o := by
  induction choices generalizing g with
  | nil => exact ⟨g, rfl, List.forall_mem_nil _, fun _ _ => rfl⟩
  | cons ch choices ih =>
      obtain ⟨hnot, honce⟩ := List.nodup_cons.1 honce
      obtain ⟨⟨v, hv⟩, hreadable⟩ := List.forall_mem_cons.1 hreadable
      obtain ⟨hch, hfree⟩ := List.forall_mem_cons.1 hfree
      obtain ⟨g₁, hgive, hvalue⟩ := Given.give_of_reads hch hv
      -- No other choice is for the option just given, so theirs are free still.
      have hfree₁ : ∀ ch' ∈ choices, g₁.value ch'.opt = none := by
        intro ch' hmem
        have hne : ch'.opt ≠ ch.opt := fun heq => hnot (heq ▸ List.mem_map_of_mem hmem)
        rw [hvalue, Function.update_of_ne hne, hfree ch' hmem]
      obtain ⟨g', hfold, hgiven, hrest⟩ := ih honce hreadable hfree₁
      refine ⟨g', ?_, List.forall_mem_cons.2 ⟨⟨v, hv, ?_⟩, hgiven⟩, fun o ho => ?_⟩
      · rw [List.foldlM_cons, hgive]
        exact hfold
      · rw [hrest _ hnot, hvalue, Function.update_self]
      · rw [List.map_cons, List.mem_cons, not_or] at ho
        rw [hrest o ho.2, hvalue, Function.update_of_ne ho.1]

theorem parse_args (h : Choice.Proper choices) :
    ∃ c, parse ("generate" :: choices.flatMap Choice.args) = .ok c ∧
      (∀ ch ∈ choices, ∃ v, ch.opt.Reads ch.text v ∧ c.value ch.opt = some v) ∧
      ∀ o, o ∉ choices.map Choice.opt → c.value o = o.fallback := by
  have hempty (o : Opt) : Given.value {} o = none := by cases o <;> rfl
  obtain ⟨g, hfold, hgiven, hothers⟩ := foldlM_give (g := {}) h.once h.readable fun ch _ => hempty ch.opt
  have hread := (readOptions_args h.dashed {} none).trans hfold
  have hrequired {o : Opt} (ho : o ∈ choices.map Choice.opt) : g.value o ≠ none := by
    obtain ⟨ch, hch, rfl⟩ := List.mem_map.1 ho
    obtain ⟨v, -, hv⟩ := hgiven ch hch
    simp [hv]
  obtain ⟨c, hfinish, hvalue⟩ := Given.finish_of_required (hrequired h.vertexCount) (hrequired h.edgeCount)
  refine ⟨c, ?_, fun ch hch => ?_, fun o ho => ?_⟩
  · rw [parse.eq_def]
    simp only [if_true, hread]
    exact hfinish
  · obtain ⟨v, hv, hg⟩ := hgiven ch hch
    exact ⟨v, hv, by rw [hvalue, hg, Option.some_or]⟩
  · rw [hvalue, hothers o ho, hempty, Option.none_or]

/-- What is asked for decides, not the order in which it is asked for or how it is written. -/
theorem parse_args_said {choices' : List Choice} (h : Choice.Proper choices) (h' : Choice.Proper choices')
    (hsaid : ∀ said, said ∈ choices'.map Choice.said ↔ said ∈ choices.map Choice.said) :
    parse ("generate" :: choices'.flatMap Choice.args) =
      parse ("generate" :: choices.flatMap Choice.args) := by
  obtain ⟨c, hparse, hgiven, hothers⟩ := parse_args h
  obtain ⟨c', hparse', hgiven', hothers'⟩ := parse_args h'
  rw [hparse, hparse']
  refine congrArg Except.ok (Generate.eq_of_value fun o => ?_)
  by_cases ho : o ∈ choices.map Choice.opt
  · obtain ⟨ch, hch, rfl⟩ := List.mem_map.1 ho
    obtain ⟨ch', hch', hsame⟩ := List.mem_map.1 ((hsaid ch.said).2 (List.mem_map_of_mem hch))
    obtain ⟨hopt, htext⟩ := Prod.mk.inj hsame
    obtain ⟨v, hv, hc⟩ := hgiven ch hch
    obtain ⟨v', hv', hc'⟩ := hgiven' ch' hch'
    rw [hopt, htext] at hv'
    rw [hc, ← hopt, hc', Opt.reads_unique hv hv']
  · have ho' : o ∉ choices'.map Choice.opt := by
      intro hmem
      obtain ⟨ch', hch', rfl⟩ := List.mem_map.1 hmem
      obtain ⟨ch, hch, hsame⟩ := List.mem_map.1 ((hsaid ch'.said).1 (List.mem_map_of_mem hch'))
      exact ho (List.mem_map.2 ⟨ch, hch, (Prod.mk.inj hsame).1⟩)
    rw [hothers o ho, hothers' o ho']

end RecursiveMatrix.CommandLine
