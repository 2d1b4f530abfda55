/-
The loop of the console.

With an output that takes everything, the loop evaluates the lines of its input one after the other,
up to the line that ends it, and writes a prompt in front of what each of them shows.  Nothing that
goes wrong with a line keeps the others from being evaluated, unless the line is no text.

* `SessionError.report`: an error as the console shows it, and that it is written so
  (`Console.says_report`).
* `Session.afterLine`, `Session.shown`: what a line does to the session, and what it shows.
* `Session.evalLines`, `Session.transcript`: the session after lines that do not end the loop, and
  what is written for them.
* `Console.loop_heard_append`: such lines are taken one after the other, and the loop goes on with
  what follows them.  It ends there in one of three ways (`Console.loop_nil`, `Console.loop_quit`,
  `Console.loop_invalid`).
* `Console.loop_lines`: the loop on a whole input.
-/
import Mathlib.Data.List.TakeWhile
import StackLang.Proofs.Growth
import StackLang.Proofs.SplitLines
import StackLang.Proofs.Writing

namespace StackLang

/-! ### What an evaluation shows -/

/-- The error as the console shows it: its wording, or a heading and one line for each
diagnostic. -/
def SessionError.report : SessionError → String
  | diagnostics errors =>
    "Woops! " ++ (diagnostics errors).message ++ ":" ++ "\n" ++
      String.join (errors.map fun e => "\t" ++ e.text ++ "\n")
  | e => e.message ++ "\n"

namespace Session

/-- What the evaluation of a source text prints. -/
def printed (s : Session) (source : String) : Bytes :=
  (s.eval source {}).2.2.written.toList

/-- The report of the error that the evaluation of a source text ends with, if it does. -/
def reported (s : Session) (source : String) : Bytes :=
  match (s.eval source {}).1 with
  | .ok _ => []
  | .error e => Text.utf8 e.report

/-- The session after a line.  A line of blanks is not evaluated. -/
def afterLine (s : Session) (line : String) : Session :=
  if Console.isBlankLine line then s else (s.eval line {}).2.1

/-- What a line shows: what its evaluation prints, and the report of its error. -/
def shown (s : Session) (line : String) : Bytes :=
  if Console.isBlankLine line then [] else s.printed line ++ s.reported line

/-- What is written for lines: a prompt in front of what each of them shows. -/
def transcript (s : Session) : List String → Bytes
  | [] => []
  | line :: lines =>
    Text.utf8 Console.prompt ++ s.shown line ++ (s.afterLine line).transcript lines

/-- The session after lines: those that are not blank are evaluated in order. -/
def evalLines (s : Session) (lines : List String) : Session :=
  s.evalAll ((lines.filter fun line => !Console.isBlankLine line).map fun line => (line, {}))

theorem foldl_afterLine (s : Session) (lines : List String) :
    lines.foldl afterLine s = s.evalLines lines := by
  rw [evalLines, evalAll, List.foldl_map, List.foldl_filter]
  congr 1
  funext s line
  rw [afterLine]
  cases Console.isBlankLine line with
  | true => rfl
  | false => rfl

/-- On an output that takes everything, an evaluation prints the same behind whatever there is. -/
theorem eval_on_taking (s : Session) (source : String) (written : Array UInt8) :
    s.eval source (.taking written) =
      ((s.eval source {}).1, (s.eval source {}).2.1,
        .taking (written ++ s.printed source)) := by
  obtain ⟨result, s', bytes, heval⟩ := s.eval_taking source
  have hempty : s.eval source {} = (result, s', .taking (#[] ++ bytes)) := heval #[]
  have hprinted : s.printed source = bytes := by
    rw [printed, hempty]
    simp [Sink.taking]
  rw [heval, hprinted, hempty]

end Session

namespace Console

/-! ### What is written -/

/-- The computation writes the text and does nothing else. -/
def Says (x : Interact Unit) (text : String) : Prop :=
  ∀ session written, x ⟨session, .taking written⟩ =
    .ok () ⟨session, .taking (written ++ Text.utf8 text)⟩

theorem says_write (text : String) : Says (write text) text :=
  fun _ _ => rfl

theorem says_writeLine (text : String) : Says (writeLine text) (text ++ "\n") :=
  says_write (text ++ "\n")

theorem Says.bind {x : Interact Unit} {f : Unit → Interact Unit} {text text' : String}
    (hx : Says x text) (hf : Says (f ()) text') : Says (x >>= f) (text ++ text') := by
  intro session written
  change EStateM.bind x f _ = _
  rw [EStateM.bind, hx]
  change f () _ = _
  rw [hf, Sink.append_append, ← Text.utf8_append]

theorem says_forM {α : Type} {f : α → Interact Unit} {text : α → String}
    (hf : ∀ a, Says (f a) (text a)) (items : List α) :
    Says (items.forM f) (String.join (items.map text)) := by
  induction items with
  | nil =>
    intro session written
    change EStateM.Result.ok () _ = _
    simp [String.join, Text.utf8]
  | cons item items ih =>
    rw [List.map_cons, String.join_cons]
    exact (hf item).bind ih

/-- An error is written as its report. -/
theorem says_report (e : SessionError) : Says (report e) e.report := by
  cases e with
  | diagnostics errors =>
    exact (says_writeLine _).bind (says_forM (fun e => says_writeLine _) errors)
  | lex _ | run _ | image _ | imageCapacity _ _ | io _ => exact says_writeLine _

/-- An input that is evaluated prints, and its error is reported behind that. -/
theorem once_on_taking (source : String) (session : Session) (written : Array UInt8) :
    once .repl {} source ⟨session, .taking written⟩ =
      .ok () ⟨(session.eval source {}).2.1,
        .taking (written ++ (session.printed source ++ session.reported source))⟩ := by
  have hstep : eval source ⟨session, .taking written⟩ =
      .ok (session.eval source {}).1 ⟨(session.eval source {}).2.1,
        .taking (written ++ session.printed source)⟩ := by
    rw [eval, session.eval_on_taking]
  rw [once]
  change EStateM.bind (eval source) _ _ = _
  rw [EStateM.bind, hstep, Session.reported]
  cases (session.eval source {}).1 with
  | ok top =>
    rw [List.append_nil]
    rfl
  | error e =>
    rw [← Sink.append_append]
    exact says_report e _ _

/-! ### The loop -/

section

variable {line : String} {rest : List Bytes} (session : Session) (written : Array UInt8)

theorem loop_nil : loop [] ⟨session, .taking written⟩ =
    .ok () ⟨session, .taking (written ++ Text.utf8 (prompt ++ "\n"))⟩ :=
  (says_write prompt).bind (says_write "\n") session written

/-- A prompt is written before a line is looked at. -/
theorem loop_cons (bytes : Bytes) (rest : List Bytes) :
    loop (bytes :: rest) ⟨session, .taking written⟩ =
      (answer bytes >>= fun goesOn => if goesOn then loop rest else pure ())
        ⟨session, .taking (written ++ Text.utf8 prompt)⟩ :=
  rfl

/-- A line that is no text ends the loop. -/
theorem loop_invalid {bytes : Bytes} (h : Text.ofUtf8? bytes = none) (rest : List Bytes) :
    loop (bytes :: rest) ⟨session, .taking written⟩ =
      .error .invalidText ⟨session, .taking (written ++ Text.utf8 prompt)⟩ := by
  rw [loop_cons, answer, h]
  rfl

theorem loop_quit (rest : List Bytes) :
    loop (Text.utf8 quit :: rest) ⟨session, .taking written⟩ =
      .ok () ⟨session, .taking (written ++ Text.utf8 prompt)⟩ := by
  have hrequest : Request.ofLine quit = .quit := by decide
  rw [loop_cons, answer, Image.ofUtf8?_utf8]
  simp only [hrequest]
  rfl

/-- A line of text that is not the last one shows what it shows, and the loop goes on. -/
theorem loop_heard (h : line ≠ quit) (rest : List Bytes) :
    loop (Text.utf8 line :: rest) ⟨session, .taking written⟩ =
      loop rest ⟨session.afterLine line,
        .taking (written ++ (Text.utf8 prompt ++ session.shown line))⟩ := by
  rw [loop_cons, answer, Image.ofUtf8?_utf8, Session.afterLine, Session.shown,
    ← Sink.append_append]
  by_cases hblank : isBlankLine line = true
  · have hrequest : Request.ofLine line = .skip := by
      rw [Request.ofLine, if_pos hblank]
    simp only [hrequest, if_pos hblank, Array.appendList_nil]
    rfl
  · have hrequest : Request.ofLine line = .eval line := by
      rw [Request.ofLine, if_neg hblank, if_neg h]
    simp only [hrequest, if_neg hblank]
    change EStateM.bind (EStateM.bind (once .repl {} line) _) _ _ = _
    rw [EStateM.bind, EStateM.bind, once_on_taking]
    rfl

/-- Lines of text that do not end the loop are taken one after the other. -/
theorem loop_heard_append {heard : List String} (h : quit ∉ heard) (rest : List Bytes) :
    loop (heard.map Text.utf8 ++ rest) ⟨session, .taking written⟩ =
      loop rest ⟨heard.foldl Session.afterLine session,
        .taking (written ++ session.transcript heard)⟩ := by
  induction heard generalizing session written with
  | nil => rw [Session.transcript, Array.appendList_nil]; rfl
  | cons line heard ih =>
    rw [List.mem_cons, not_or] at h
    rw [List.map_cons, List.cons_append, loop_heard session written (Ne.symm h.1), ih _ _ h.2,
      Sink.append_append]
    rfl

end

/-- In front of a line that is no text, the lines up to the first such line are texts. -/
theorem exists_first_invalid {front : List Bytes} {bad : Bytes} (hquit : Text.utf8 quit ∉ front)
    (hbad : Text.ofUtf8? bad = none) (rest : List Bytes) :
    ∃ (heard : List String) (first : Bytes) (others : List Bytes),
      front ++ bad :: rest = heard.map Text.utf8 ++ first :: others ∧
        Text.ofUtf8? first = none ∧ quit ∉ heard := by
  induction front with
  | nil => exact ⟨[], bad, rest, rfl, hbad, List.not_mem_nil⟩
  | cons bytes front ih =>
    rw [List.mem_cons, not_or] at hquit
    cases htext : Text.ofUtf8? bytes with
    | none => exact ⟨[], bytes, front ++ bad :: rest, rfl, htext, List.not_mem_nil⟩
    | some line =>
      obtain ⟨heard, first, others, hsplit, hfirst, hheard⟩ := ih hquit.2
      have hbytes := Text.utf8_of_ofUtf8? htext
      refine ⟨line :: heard, first, others, ?_, hfirst, ?_⟩
      · rw [List.map_cons, hbytes, List.cons_append, hsplit]
        rfl
      · rw [List.mem_cons, not_or]
        refine ⟨?_, hheard⟩
        rintro rfl
        exact hquit.1 hbytes

/-- Lines are those in front of the one that ends the loop and those from there on. -/
theorem takeWhile_quit (lines : List String) :
    (quit ∉ lines ∧ lines.takeWhile (· != quit) = lines) ∨
      (quit ∈ lines ∧ ∃ others, lines = lines.takeWhile (· != quit) ++ quit :: others) := by
  by_cases h : quit ∈ lines
  · obtain ⟨heard, others, rfl, hheard⟩ := List.eq_append_cons_of_mem h
    have htake : (heard ++ quit :: others).takeWhile (· != quit) = heard := by
      rw [List.takeWhile_append_of_pos, List.takeWhile_cons_of_neg (by simp), List.append_nil]
      intro line hline
      rw [bne_iff_ne]
      rintro rfl
      exact hheard hline
    rw [htake]
    exact .inr ⟨h, others, rfl⟩
  · refine .inl ⟨h, List.takeWhile_eq_self_iff.mpr fun line hline => ?_⟩
    rw [bne_iff_ne]
    rintro rfl
    exact h hline

/-- **The loop evaluates its lines in order.**  A text is split into lines in one way.  With an
output that takes everything, the loop on the bytes of a text ends without an error.  It leaves the
session that comes of evaluating, in order, the lines in front of the first `quit` that are not
blank.  It writes a prompt for each of these lines in front of what its evaluation prints and the
report of its error, and in the end a prompt, with a line feed if there is no `quit`.

On any input, if a line in front of every `quit` is no text, then the loop fails at the first such
line, when it has done the same with the lines in front of that and has written one more prompt. -/
theorem loop_lines (session : Session) (written : Array UInt8) :
    (∀ text : String, ∃ lines : List String,
      (∀ other : List String,
        Text.IsLines '\n' '\r' text.toList (other.map String.toList) ↔ other = lines) ∧
      let heard := lines.takeWhile (· != quit)
      loop (Text.lines (Text.utf8 text)) ⟨session, .taking written⟩ =
        .ok () ⟨session.evalLines heard,
          .taking (written ++ (session.transcript heard ++
            Text.utf8 (if quit ∈ lines then prompt else prompt ++ "\n")))⟩) ∧
    ∀ (input : Bytes) (front : List Bytes) (bad : Bytes) (rest : List Bytes),
      Text.IsLines Text.lineFeed Text.carriageReturn input (front ++ bad :: rest) →
      Text.utf8 quit ∉ front → Text.ofUtf8? bad = none →
      ∃ (heard : List String) (first : Bytes) (others : List Bytes),
        front ++ bad :: rest = heard.map Text.utf8 ++ first :: others ∧
        Text.ofUtf8? first = none ∧
        loop (Text.lines input) ⟨session, .taking written⟩ =
          .error .invalidText ⟨session.evalLines heard,
            .taking (written ++ (session.transcript heard ++ Text.utf8 prompt))⟩ := by
  constructor
  · intro text
    obtain ⟨lines, hlines⟩ := Text.exists_lines_iff text
    refine ⟨lines, hlines, ?_⟩
    dsimp only
    rw [Text.lines_utf8 ((hlines lines).mpr rfl), ← Session.foldl_afterLine, ← Sink.append_append]
    rcases takeWhile_quit lines with ⟨hquit, htake⟩ | ⟨hquit, others, hsplit⟩
    · have hloop := loop_heard_append session written hquit []
      rw [List.append_nil] at hloop
      rw [htake, hloop, if_neg hquit, loop_nil]
    · have hheard : quit ∉ lines.takeWhile (· != quit) := by
        intro hmem
        simpa using List.mem_takeWhile_imp hmem
      have hloop :=
        loop_heard_append session written hheard (Text.utf8 quit :: others.map Text.utf8)
      rw [if_pos hquit]
      conv_lhs => rw [hsplit]
      rw [List.map_append, List.map_cons, hloop, loop_quit]
  · intro input front bad rest hinput hquit hbad
    obtain ⟨heard, first, others, hsplit, hfirst, hheard⟩ := exists_first_invalid hquit hbad rest
    refine ⟨heard, first, others, hsplit, hfirst, ?_⟩
    rw [Text.lines_of_isLines hinput, hsplit, loop_heard_append session written hheard,
      loop_invalid _ _ hfirst, Session.foldl_afterLine, Sink.append_append]

/-- A line that prints, a line that is refused, bytes that are no text, and a line that would have
ended the loop. -/
def brokenInput : Bytes :=
  Text.utf8 "print 1" ++ Text.carriageReturn :: Text.lineFeed :: (Text.utf8 "x" ++ Text.lineFeed ::
    ([0xff] ++ Text.lineFeed :: (Text.utf8 "quit" ++ [Text.lineFeed])))

theorem loop_brokenInput :
    (∃ (heard : List String) (first : Bytes) (others : List Bytes),
      [Text.utf8 "print 1", Text.utf8 "x"] ++ [0xff] :: [Text.utf8 "quit"] =
        heard.map Text.utf8 ++ first :: others ∧
      Text.ofUtf8? first = none ∧
      loop (Text.lines brokenInput) ⟨.new {}, .taking #[]⟩ =
        .error .invalidText ⟨(Session.new {}).evalLines heard,
          .taking ((#[] : Array UInt8) ++
            ((Session.new {}).transcript heard ++ Text.utf8 prompt))⟩) ∧
    (Session.new {}).transcript ["print 1", "x"] = Text.utf8
      ">> 1\n>> Woops! 1 error(s) found:\n\tcompile error: 1:1: variable not defined: x\n" := by
  have hlines : Text.IsLines Text.lineFeed Text.carriageReturn brokenInput
      ([Text.utf8 "print 1", Text.utf8 "x"] ++ [0xff] :: [Text.utf8 "quit"]) :=
    .returned (by decide +kernel) (.fed (by decide +kernel) (by decide +kernel)
      (.fed (by decide) (by decide) (.fed (by decide +kernel) (by decide +kernel) .nil)))
  exact ⟨(loop_lines (.new {}) #[]).2 brokenInput _ _ _ hlines (by decide +kernel)
    (by decide +kernel), by decide +kernel⟩

end Console

end StackLang
