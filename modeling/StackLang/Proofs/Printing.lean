/-
Printed programs are read back.

A printed program has one statement on each line and parentheses around every application of an
operator.  If its tokens can be read back one by one, and its expressions are not too deep, then
its text is read without errors, and as the same program at other places.

* `Token.ReadsBack`: the text of a token is read as that token alone.
* `Expr.Printable`, `Stmt.Printable`: what can be expected to be read back.
* `Expr.nesting`: the levels that a printed expression takes.
* `ReadsAs`: the tokens of a text, wherever it stands.
* `tokenize_and_ofTokens_text`: the text of a program is read as that program.

Design notes.

* What a printed part is followed by is a blank, a closing parenthesis or nothing, and no token
  goes on with these.  So the tokens of a text are those of its parts (`ReadsAs.append`).
* No printed statement starts with a minus sign, since an application of the sign starts with its
  parenthesis.  So no statement goes on with the next one.
* A printed expression is an operand, by itself or in parentheses, so its levels are counted from
  where it starts, whatever is asked of the operators outside of it.
-/
import StackLang.Proofs.Parsing
import StackLang.Proofs.Places

namespace StackLang

/-! ### What can be printed -/

/-- The text of the token is read as the token alone. -/
def Token.ReadsBack (t : Token) : Prop :=
  (tokenize t.text).map (List.map Located.token) = .ok [t, .eof]

instance (t : Token) : Decidable t.ReadsBack :=
  inferInstanceAs (Decidable (_ = _))

/-- The operands can be read back, and the operators are signs in front of one operand or between
two. -/
inductive Expr.Printable : Expr → Prop
  | literal {t : Located} (ht : t.token.IsOperand) (hback : t.token.ReadsBack) :
    Printable (.literal t)
  | unary {op : Located} {operand : Expr} (hop : op.token.IsSign) (h : Printable operand) :
    Printable (.unary op operand)
  | binary {left right : Expr} {op : Located} {power : Power} (hop : op.token.Joins power)
      (hleft : Printable left) (hright : Printable right) :
    Printable (.binary left op right)

/-- The levels that the expression takes where all applications of operators are in
parentheses. -/
def Expr.nesting : Expr → Nat
  | literal _ => 1
  | unary _ operand => 2 + operand.nesting
  | binary left _ right => max (1 + left.nesting) (3 + right.nesting)

/-- The name and the value can be read back. -/
inductive Stmt.Printable : Stmt → Prop
  | declare {name : Located} {init : Expr} {text : String} (hname : name.token = .ident text)
      (hback : name.token.ReadsBack) (h : init.Printable)
      (hnesting : init.nesting ≤ Parser.maxNesting) :
    Printable (.declare name init)
  | expr {value : Expr} (h : value.Printable) (hnesting : value.nesting ≤ Parser.maxNesting) :
    Printable (.expr value)
  | print {value : Expr} (h : value.Printable) (hnesting : value.nesting ≤ Parser.maxNesting) :
    Printable (.print value)

/-- The tokens of the printed expression. -/
def Expr.tokens : Expr → List Token
  | literal t => [t.token]
  | unary op operand => .leftParen :: op.token :: operand.tokens ++ [.rightParen]
  | binary left op right => .leftParen :: (left.tokens ++ op.token :: right.tokens) ++ [.rightParen]

/-- The tokens of the printed statement. -/
def Stmt.tokens : Stmt → List Token
  | declare name init => .var :: name.token :: .assign :: init.tokens
  | expr value => value.tokens
  | print value => .print :: value.tokens

/-! ### The tokens of a text, wherever it stands -/

namespace Cursor

/-- The next token of a text and what is left behind it are the same wherever the text stands. -/
theorem next_elsewhere {c : Cursor} {t : Located} (h : c.next.1 = .ok t) (p : Pos) :
    ∃ q r, next ⟨c.rest, p⟩ = (.ok ⟨t.token, q⟩, ⟨c.next.2.rest, r⟩) := by
  simp only [next, skipBlanks, advance] at h ⊢
  cases hread : Lexeme.read (c.rest.drop (c.rest.takeWhile Text.isBlank).length) with
  | token t' width =>
    rw [hread] at h
    cases h
    exact ⟨_, _, rfl⟩
  | fault reason width =>
    rw [hread] at h
    cases h

theorem tokens_elsewhere {c : Cursor} {ts : List Located} (h : c.tokens = .ok ts) (p : Pos) :
    (tokens ⟨c.rest, p⟩).map (List.map Located.token) = .ok (ts.map Located.token) := by
  induction ts generalizing c p with
  | nil => exact absurd h (tokens_ne_nil c)
  | cons t ts ih =>
    rcases tokens_eq_ok h with ⟨t', hnext, ht, hts⟩ | ⟨t', ts', hnext, ht, hrest, hts⟩
    · cases hts
      obtain ⟨q, r, hother⟩ := next_elsewhere hnext p
      rw [tokens_of_eof (congrArg Prod.fst hother) ht]
      rfl
    · cases hts
      obtain ⟨q, r, hother⟩ := next_elsewhere hnext p
      have hbehind := ih hrest r
      rw [tokens_of_ne_eof (congrArg Prod.fst hother) ht, hother]
      cases htokens : tokens ⟨c.next.2.rest, r⟩ with
      | error e =>
        rw [htokens] at hbehind
        cases hbehind
      | ok us =>
        rw [htokens] at hbehind
        injection hbehind with hus
        simp [Except.map, hus]

end Cursor

/-- Wherever the text stands, it has these tokens, and then it ends. -/
def ReadsAs (text : List Char) (ts : List Token) : Prop :=
  ∀ p, (Cursor.tokens ⟨text, p⟩).map (List.map Located.token) = .ok (ts ++ [.eof])

theorem Token.ReadsBack.readsAs {t : Token} (h : t.ReadsBack) : ReadsAs t.text.toList [t] := by
  intro p
  rw [ReadsBack, tokenize] at h
  cases htokens : (Cursor.ofSource t.text).tokens with
  | error e =>
    rw [htokens] at h
    cases h
  | ok ts =>
    rw [htokens] at h
    injection h with hts
    rw [List.singleton_append, ← hts]
    exact Cursor.tokens_elsewhere htokens p

namespace ReadsAs

variable {text more : List Char} {ts us : List Token}

/-- The tokens with their places. -/
theorem exists_tokens (h : ReadsAs text ts) (p : Pos) :
    ∃ front stop, Cursor.tokens ⟨text, p⟩ = .ok (front ++ [stop]) ∧ front.map Located.token = ts ∧
      stop.token = .eof := by
  have hp := h p
  cases htokens : Cursor.tokens ⟨text, p⟩ with
  | error e =>
    rw [htokens] at hp
    cases hp
  | ok found =>
    rw [htokens] at hp
    injection hp with hfound
    obtain ⟨front, last, rfl, hfront, hlast⟩ := List.map_eq_append_iff.mp hfound
    obtain ⟨stop, rfl, hstop⟩ := List.map_eq_singleton_iff.mp hlast
    exact ⟨front, stop, rfl, hfront, hstop⟩

/-- A text that is followed by a delimiter has its tokens in front of those of what follows. -/
theorem append (h : ReadsAs text ts) (hmore : ReadsAs more us)
    (hdelimited : Lexeme.Delimited more) : ReadsAs (text ++ more) (ts ++ us) := by
  intro p
  obtain ⟨front, stop, htokens, hfront, -⟩ := h.exists_tokens p
  obtain ⟨front', stop', htokens', hfront', hstop'⟩ := hmore.exists_tokens (p.afterAll text)
  have happend : Cursor.tokens ⟨text ++ more, p⟩ = _ := Cursor.tokens_append htokens hdelimited
  rw [happend, htokens']
  simp [Except.map, hfront, hfront', hstop']

theorem blank {d : Char} (hd : Text.isBlank d = true) (h : ReadsAs text ts) :
    ReadsAs (d :: text) ts := by
  intro p
  rw [Cursor.tokens_blank hd]
  exact h _

/-- Nothing makes one sign with an opening parenthesis. -/
theorem leftParen (h : ReadsAs text ts) : ReadsAs ('(' :: text) (.leftParen :: ts) := by
  intro p
  have hdouble : text.head?.bind (Lexeme.doubleSymbol '(') = none := by
    cases text <;> rfl
  have hread : Lexeme.read ('(' :: text) = .token .leftParen 1 := by
    simp only [Lexeme.read, Lexeme.readSymbol, hdouble]
    rfl
  have hnext : Cursor.next ⟨'(' :: text, p⟩ = (.ok ⟨.leftParen, p⟩, ⟨text, p.after '('⟩) := by
    have hblank : Text.isBlank '(' = false := by decide
    simp [Cursor.next, Cursor.skipBlanks, Cursor.advance, hblank, hread, Pos.afterAll]
  obtain ⟨front, stop, htokens, hfront, hstop⟩ := h.exists_tokens (p.after '(')
  rw [Cursor.tokens_of_ne_eof (congrArg Prod.fst hnext) (by simp), hnext, htokens]
  simp [Except.map, hfront, hstop]

end ReadsAs

/-! ### The tokens of a printed program -/

theorem Lexeme.delimits_space : Lexeme.Delimits ' ' :=
  ⟨by decide, by decide, by decide, by decide⟩

theorem Lexeme.delimits_rightParen : Lexeme.Delimits ')' :=
  ⟨by decide, by decide, by decide, by decide⟩

theorem Token.IsSign.readsBack {t : Token} (h : t.IsSign) : t.ReadsBack := by
  cases h <;> decide +kernel

theorem Token.Joins.readsBack {t : Token} {power : Power} (h : t.Joins power) : t.ReadsBack := by
  cases h <;> decide +kernel

section

variable {text more : List Char} {ts us : List Token}

/-- Texts with a blank between them. -/
theorem ReadsAs.spaced (h : ReadsAs text ts) (hmore : ReadsAs more us) :
    ReadsAs (text ++ ' ' :: more) (ts ++ us) :=
  h.append (hmore.blank (by decide)) (Lexeme.delimited_cons Lexeme.delimits_space _)

/-- A text in parentheses. -/
theorem ReadsAs.group (h : ReadsAs text ts) :
    ReadsAs ('(' :: (text ++ [')'])) (.leftParen :: (ts ++ [.rightParen])) := by
  have hparen : Token.ReadsBack .rightParen := by decide +kernel
  exact (h.append hparen.readsAs (Lexeme.delimited_cons Lexeme.delimits_rightParen _)).leftParen

end

theorem Expr.Printable.readsAs {e : Expr} (h : e.Printable) : ReadsAs e.text.toList e.tokens := by
  induction h with
  | literal _ hback => exact hback.readsAs
  | unary hop _ ih =>
    have hinner := (hop.readsBack.readsAs.spaced ih).group
    simpa [text, tokens] using hinner
  | binary hop _ _ ihleft ihright =>
    have hinner := (ihleft.spaced (hop.readsBack.readsAs.spaced ihright)).group
    simpa [text, tokens] using hinner

theorem Stmt.Printable.readsAs {stmt : Stmt} (h : stmt.Printable) :
    ReadsAs stmt.text.toList stmt.tokens := by
  have hvar : Token.ReadsBack .var := by decide +kernel
  have hassign : Token.ReadsBack .assign := by decide +kernel
  have hprint : Token.ReadsBack .print := by decide +kernel
  cases h with
  | declare hname hback hinit _ =>
    have hvalue := hassign.readsAs.spaced hinit.readsAs
    have hline := hvar.readsAs.spaced (hback.readsAs.spaced hvalue)
    simpa [text, tokens, Token.text] using hline
  | expr hvalue _ => exact hvalue.readsAs
  | print hvalue _ =>
    have hline := hprint.readsAs.spaced hvalue.readsAs
    simpa [text, tokens, Token.text] using hline

/-- The tokens of a printed program are those of its statements. -/
theorem Program.readsAs_text {program : Program} (h : ∀ stmt ∈ program, stmt.Printable) :
    ReadsAs program.text.toList (program.flatMap Stmt.tokens) := by
  induction program with
  | nil =>
    intro p
    have hempty : (Cursor.ofSource "").tokens = .ok [⟨.eof, .start⟩] := by decide +kernel
    exact Cursor.tokens_elsewhere hempty p
  | cons stmt program ih =>
    obtain ⟨hstmt, hrest⟩ := List.forall_mem_cons.mp h
    cases program with
    | nil => simpa [text] using hstmt.readsAs
    | cons next program =>
      -- the line feed is a blank, and no token goes on with it
      have hlines := hstmt.readsAs.append ((ih hrest).blank (d := '\n') (by decide))
        (Lexeme.delimited_cons Lexeme.delimits_lineFeed _)
      simpa [text] using hlines

/-! ### What the tokens of a printed program spell -/

theorem Token.Joins.rank_pos {t : Token} {power : Power} (h : t.Joins power) : 0 < power.rank := by
  cases h <;> decide

theorem Expr.nesting_pos (e : Expr) : 0 < e.nesting := by
  cases e <;> simp only [nesting] <;> omega

/-- The tokens of a printed expression spell it, at other places, and take no more levels than the
expression has. -/
theorem Expr.Printable.spells {e : Expr} (h : e.Printable) (least base : Nat) {ts : List Located}
    (hts : ts.map Located.token = e.tokens) :
    ∃ e' top, Spells least base ts e' 0 top ∧ top ≤ base + e.nesting ∧
      e'.moved (fun _ => .start) = e.moved (fun _ => .start) := by
  induction h generalizing least base ts with
  | @literal t ht _ =>
    obtain ⟨t', rfl, ht'⟩ := List.map_eq_singleton_iff.mp hts
    rw [← ht'] at ht
    exact ⟨.literal t', base + 1, .operand ht, Nat.le_refl _, by simp [moved, Located.moved, ht']⟩
  | @unary op operand hop _ ih =>
    obtain ⟨inner, last, rfl, hinner, hlast⟩ := List.map_eq_append_iff.mp hts
    obtain ⟨close, rfl, hclose⟩ := List.map_eq_singleton_iff.mp hlast
    obtain ⟨opening, inner, rfl, hopening, hinner⟩ := List.map_eq_cons_iff.mp hinner
    obtain ⟨op', inner, rfl, hop', hinner⟩ := List.map_eq_cons_iff.mp hinner
    obtain ⟨e', top, hspells, htop, hsame⟩ := ih (Power.negation.rank + 1) (base + 2) hinner
    rw [← hop'] at hop
    refine ⟨_, _, .group hopening hclose (.unary hop hspells), ?_, ?_⟩
    · simp only [nesting]
      omega
    · simp [moved, Located.moved, hop', hsame]
  | @binary left right op power hop _ _ ihleft ihright =>
    obtain ⟨inner, last, rfl, hinner, hlast⟩ := List.map_eq_append_iff.mp hts
    obtain ⟨close, rfl, hclose⟩ := List.map_eq_singleton_iff.mp hlast
    obtain ⟨opening, inner, rfl, hopening, hinner⟩ := List.map_eq_cons_iff.mp hinner
    obtain ⟨front, inner, rfl, hfront, hinner⟩ := List.map_eq_append_iff.mp hinner
    obtain ⟨op', back, rfl, hop', hback⟩ := List.map_eq_cons_iff.mp hinner
    obtain ⟨left', top, hleft, htop, hsame⟩ := ihleft power.rank (base + 1) hfront
    obtain ⟨right', top', hright, htop', hsame'⟩ := ihright (power.rank + 1) (base + 3) hback
    have hleast : Power.lowest.rank + 1 ≤ power.rank := hop.rank_pos
    rw [← hop'] at hop
    refine ⟨_, _, .group hopening hclose (.binary hop hleast hleft hright), ?_, ?_⟩
    · have hpos := right.nesting_pos
      simp only [nesting]
      omega
    · simp [moved, Located.moved, hop', hsame, hsame']

theorem Expr.Printable.spellsExpr {e : Expr} (h : e.Printable)
    (hnesting : e.nesting ≤ Parser.maxNesting) {ts : List Located}
    (hts : ts.map Located.token = e.tokens) :
    ∃ e', SpellsExpr ts e' ∧ e'.moved (fun _ => .start) = e.moved (fun _ => .start) := by
  obtain ⟨e', top, hspells, htop, hsame⟩ := h.spells (Power.lowest.rank + 1) 0 hts
  exact ⟨e', ⟨0, top, hspells, by omega⟩, hsame⟩

theorem Stmt.Printable.spellsStmt {stmt : Stmt} (h : stmt.Printable) {ts : List Located}
    (hts : ts.map Located.token = stmt.tokens) :
    ∃ stmt', SpellsStmt ts stmt' ∧
      stmt'.moved (fun _ => .start) = stmt.moved (fun _ => .start) := by
  cases h with
  | @declare name init text hname _ hinit hnesting =>
    obtain ⟨var, ts, rfl, hvar, hts⟩ := List.map_eq_cons_iff.mp hts
    obtain ⟨name', ts, rfl, hname', hts⟩ := List.map_eq_cons_iff.mp hts
    obtain ⟨assign, ts, rfl, hassign, hts⟩ := List.map_eq_cons_iff.mp hts
    obtain ⟨init', hspells, hsame⟩ := hinit.spellsExpr hnesting hts
    refine ⟨_, .declare hvar (hname'.trans hname) hassign hspells, ?_⟩
    simp [moved, Located.moved, hname', hsame]
  | expr hvalue hnesting =>
    obtain ⟨value', hspells, hsame⟩ := hvalue.spellsExpr hnesting hts
    exact ⟨_, .expr hspells, by simp [moved, hsame]⟩
  | print hvalue hnesting =>
    obtain ⟨print, ts, rfl, hprint, hts⟩ := List.map_eq_cons_iff.mp hts
    obtain ⟨value', hspells, hsame⟩ := hvalue.spellsExpr hnesting hts
    exact ⟨_, .print hprint hspells, by simp [moved, hsame]⟩

/-- No printed statement starts with a minus sign. -/
theorem Stmt.Printable.head_ne_minus {stmt : Stmt} (h : stmt.Printable) (ts : List Token) :
    ∀ t ∈ (stmt.tokens ++ ts).head?, t ≠ .minus := by
  have hvalue : ∀ e : Expr, e.Printable → ∀ t ∈ (e.tokens ++ ts).head?, t ≠ .minus := by
    intro e he
    cases he with
    | @literal t ht _ =>
      rintro t' ⟨⟩ hminus
      rw [hminus] at ht
      cases ht
    | _ => simp [Expr.tokens]
  cases h with
  | declare => simp [tokens]
  | print => simp [tokens]
  | expr h _ => exact hvalue _ h

theorem Program.spellsProgram_of_printable {program : Program}
    (h : ∀ stmt ∈ program, stmt.Printable) {ts : List Located}
    (hts : ts.map Located.token = program.flatMap Stmt.tokens) :
    ∃ program', SpellsProgram ts program' ∧
      Program.moved (fun _ => .start) program' = program.moved (fun _ => .start) := by
  induction program generalizing ts with
  | nil =>
    obtain rfl := List.map_eq_nil_iff.mp hts
    exact ⟨[], spellsProgram_nil, rfl⟩
  | cons stmt program ih =>
    obtain ⟨hstmt, hrest⟩ := List.forall_mem_cons.mp h
    rw [List.flatMap_cons] at hts
    obtain ⟨first, rest, rfl, hfirst, hothers⟩ := List.map_eq_append_iff.mp hts
    obtain ⟨stmt', hspells, hsame⟩ := hstmt.spellsStmt hfirst
    obtain ⟨program', hspells', hsame'⟩ := ih hrest hothers
    refine ⟨stmt' :: program', .cons hspells hspells' ?_, ?_⟩
    · intro t ht
      have hhead : t.token ∈ (program.flatMap Stmt.tokens).head? := by
        rw [← hothers, List.head?_map]
        exact Option.mem_map_of_mem _ ht
      cases program with
      | nil => cases hhead
      | cons next program =>
        rw [List.flatMap_cons] at hhead
        exact (hrest next List.mem_cons_self).head_ne_minus _ _ hhead
    · simp only [Program.moved, List.map_cons] at hsame' ⊢
      rw [hsame, hsame']

/-- The text of a printable program is read without errors, and as the same program at other
places. -/
theorem tokenize_and_ofTokens_text {program : Program} (h : ∀ stmt ∈ program, stmt.Printable) :
    ∃ tokens program', tokenize program.text = .ok tokens ∧
      Program.ofTokens tokens = (program', []) ∧
      Program.moved (fun _ => .start) program' = program.moved (fun _ => .start) := by
  obtain ⟨ts, stop, htokens, hts, hstop⟩ := (Program.readsAs_text h).exists_tokens .start
  obtain ⟨program', hspells, hsame⟩ := Program.spellsProgram_of_printable h hts
  obtain ⟨front, last, heq, -, hfront⟩ := Cursor.exists_stop_of_tokens htokens
  obtain ⟨rfl, -⟩ := List.append_inj' heq rfl
  exact ⟨ts ++ [stop], program', htokens, (ofTokens_eq_iff hfront hstop).mpr hspells, hsame⟩

/-- A declaration, an expression that starts with a sign, and a print statement with a string that
holds a line feed. -/
def mixedProgram : Program :=
  [.declare ⟨.ident "total", ⟨1, 5⟩⟩ (.binary (.literal ⟨.number ⟨0x3fc00000⟩, ⟨1, 14⟩⟩)
      ⟨.star, ⟨1, 18⟩⟩ (.unary ⟨.minus, ⟨1, 20⟩⟩ (.literal ⟨.ident "_b", ⟨1, 21⟩⟩))),
    .expr (.unary ⟨.minus, ⟨2, 1⟩⟩ (.unary ⟨.bang, ⟨2, 2⟩⟩ (.literal ⟨.bool true, ⟨2, 3⟩⟩))),
    .print (.binary (.literal ⟨.string "two\nlines", ⟨3, 7⟩⟩) ⟨.lessEqual, ⟨4, 8⟩⟩
      (.literal ⟨.ident "total", ⟨4, 11⟩⟩))]

theorem tokenize_and_ofTokens_mixedProgram :
    (∀ stmt ∈ mixedProgram, stmt.Printable) ∧
    mixedProgram.text =
      "var total = (1.5 * (- _b))\n(- (! true))\nprint (\"two\nlines\" <= total)" ∧
    ∃ tokens program', tokenize mixedProgram.text = .ok tokens ∧
      Program.ofTokens tokens = (program', []) ∧
      Program.moved (fun _ => .start) program' = mixedProgram.moved (fun _ => .start) := by
  have hprintable : ∀ stmt ∈ mixedProgram, stmt.Printable := by
    intro stmt hstmt
    simp only [mixedProgram, List.mem_cons, List.not_mem_nil, or_false] at hstmt
    rcases hstmt with rfl | rfl | rfl
    · exact .declare rfl (by decide +kernel)
        (.binary .star (.literal (.number _) (by decide +kernel))
          (.unary .minus (.literal (.ident _) (by decide +kernel)))) (by decide)
    · exact .expr (.unary .minus (.unary .bang (.literal (.bool _) (by decide +kernel))))
        (by decide)
    · exact .print (.binary .lessEqual (.literal (.string _) (by decide +kernel))
        (.literal (.ident _) (by decide +kernel))) (by decide)
  exact ⟨hprintable, by decide +kernel, tokenize_and_ofTokens_text hprintable⟩

end StackLang
