import LoxExpressions.Proofs.Composition
import LoxExpressions.Proofs.Kinds
import LoxExpressions.Proofs.Number.Numeral
import LoxExpressions.Proofs.Number.Word
import LoxExpressions.Proofs.Output.Listing

/-!
Printed trees read back. Without strings, a printed literal holds neither a space nor a parenthesis,
and what follows the first operand of a node tells a negation from a difference.
-/

namespace LoxExpressions

open Segment

def delimits (c : Char) : Bool := c = ' ' ∨ c = '(' ∨ c = ')'

namespace Decimal

variable {d : Decimal} {c : Char}

theorem isDigit_or_point_of_mem_toChars (mem : c ∈ d.toChars) : c.isDigit = true ∨ c = '.' := by
  unfold toChars at mem
  split at mem
  · exact .inl (isDigit_of_mem_wholeDigits mem)
  · rcases List.mem_append.1 mem with mem | mem
    · exact .inl (isDigit_of_mem_wholeDigits mem)
    rcases List.mem_cons.1 mem with rfl | mem
    · exact .inr rfl
    · exact .inl (isDigit_of_mem_fractionDigits mem)

theorem delimits_of_mem_toChars (mem : c ∈ d.toChars) : delimits c = false := by
  rw [delimits, decide_eq_false_iff_not]
  rintro (rfl | rfl | rfl) <;>
    exact absurd (isDigit_or_point_of_mem_toChars mem) (by decide)

/-- A numeral is no word. -/
theorem toChars_ne_of_mem {word : List Char} (letter : c.isAlpha = true) (mem : c ∈ word) :
    d.toChars ≠ word := by
  rintro rfl
  rcases isDigit_or_point_of_mem_toChars mem with digit | rfl
  · have word := startsWord_of_isDigit digit
    simp [startsWord, letter] at word
  · cases letter

end Decimal

namespace Value

/-- What literals other than strings denote. A numeral that is too great denotes infinity. -/
inductive Plain : Value → Prop where
  | finite {code : Nat} (bound : code < Magnitude.infinite) : Plain (.number (ofMagnitude code))
  | infinity : Plain (.number (ofMagnitude Magnitude.infinite))
  | boolean (truth : Bool) : Plain (.boolean truth)
  | nil : Plain .nil

theorem plain_of_toFloat (d : Decimal) : Plain (.number d.toFloat) := by
  have bound : Magnitude.nearest d ≤ Magnitude.infinite := Nat.min_le_left _ _
  unfold Decimal.toFloat
  rcases Nat.lt_or_eq_of_le bound with finite | infinite
  · exact .finite finite
  · rw [infinite]
    exact .infinity

def ofEcho (text : List Char) : Value :=
  if text = "nil".toList then .nil
  else if text = "true".toList then .boolean true
  else if text = "false".toList then .boolean false
  else if text = "inf".toList then .number (ofMagnitude Magnitude.infinite)
  else .number (Decimal.ofChars text).toFloat

theorem echo_ofMagnitude {code : Nat} (number : code ≤ Magnitude.infinite) :
    (Value.number (ofMagnitude code)).echo = NumberStyle.literal.magnitudeText code := by
  obtain ⟨same, unsigned⟩ := Double.magnitude_ofMagnitude number
  rw [echo, text, NumberStyle.text, same, unsigned, if_neg (Nat.not_lt.2 number),
    if_neg Bool.false_ne_true]

theorem toList_echo_finite {code : Nat} (bound : code < Magnitude.infinite) :
    (Value.number (ofMagnitude code)).echo.toList = (NumberStyle.literal.decimal code).toChars := by
  rw [echo_ofMagnitude bound.le, NumberStyle.magnitudeText, if_pos bound, String.toList_ofList]

theorem echo_infinity : (Value.number (ofMagnitude Magnitude.infinite)).echo = "inf" := by
  rw [echo_ofMagnitude le_rfl, NumberStyle.magnitudeText, if_neg (Nat.lt_irrefl _)]
  rfl

variable {value : Value}

theorem Plain.ofEcho_echo (plain : value.Plain) : ofEcho value.echo.toList = value := by
  cases plain with
  | @finite code bound =>
    have read := NumberStyle.literal.nearest_decimal bound
    rw [toList_echo_finite bound, ofEcho,
      if_neg (Decimal.toChars_ne_of_mem (c := 'n') (by decide) (by decide)),
      if_neg (Decimal.toChars_ne_of_mem (c := 't') (by decide) (by decide)),
      if_neg (Decimal.toChars_ne_of_mem (c := 'f') (by decide) (by decide)),
      if_neg (Decimal.toChars_ne_of_mem (c := 'i') (by decide) (by decide)),
      Decimal.ofChars_toChars, Decimal.toFloat, read]
  | infinity =>
    rw [echo_infinity]
    rfl
  | boolean truth => cases truth <;> rfl
  | nil => rfl

theorem Plain.echo_ne_nil (plain : value.Plain) : value.echo.toList ≠ [] := by
  cases plain with
  | finite bound =>
    rw [toList_echo_finite bound]
    exact (Decimal.admits_toChars _).text_ne_nil
  | infinity =>
    rw [echo_infinity]
    decide
  | boolean truth => cases truth <;> decide
  | nil => decide

theorem Plain.delimits_of_mem_echo (plain : value.Plain) :
    ∀ c ∈ value.echo.toList, delimits c = false := by
  cases plain with
  | finite bound =>
    rw [toList_echo_finite bound]
    exact fun c => Decimal.delimits_of_mem_toChars
  | infinity =>
    simp [echo_infinity, delimits]
  | boolean truth => cases truth <;> simp [echo, text, delimits]
  | nil => simp [echo, text, delimits]

end Value

def Token.unlined (token : Token) : Token := { token with line := 0 }

theorem Mark.toList_lexeme_token (mark : Mark) (line : Nat) :
    (mark.token line).lexeme.toList = mark.chars := String.toList_ofList

theorem Mark.chars_ne_group (mark : Mark) : mark.chars ≠ "group".toList := by
  cases mark <;> decide

namespace Expr

def literals : Expr → List Value
  | literal value => [value]
  | unary _ operand => operand.literals
  | binary left _ right => left.literals ++ right.literals
  | grouping inner => inner.literals

/-- Operators are marks as they are spelled in sources, and no literal is a string. -/
inductive Spelled : Expr → Prop where
  | literal {value : Value} (plain : value.Plain) : Spelled (.literal value)
  | unary (mark : Mark) (line : Nat) {operand : Expr} (inner : Spelled operand) :
      Spelled (.unary (mark.token line) operand)
  | binary {left right : Expr} (mark : Mark) (line : Nat) (first : Spelled left)
      (second : Spelled right) : Spelled (.binary left (mark.token line) right)
  | grouping {inner : Expr} (inside : Spelled inner) : Spelled (.grouping inner)

def readLiteral (text : List Char) : Expr × List Char :=
  (.literal (Value.ofEcho (text.takeWhile (!delimits ·))), text.dropWhile (!delimits ·))

def readOperands (operand : List Char → Option (Expr × List Char)) (text : List Char) :
    Option (List Expr × List Char) := do
  let (first, after) ← operand text
  match after with
  | ')' :: rest => some ([first], rest)
  | ' ' :: more =>
    let (second, after) ← operand more
    match after with
    | ')' :: rest => some ([first, second], rest)
    | _ => none
  | _ => none

def node? (heading : List Char) (operands : List Expr) : Option Expr :=
  match operands with
  | [inner] =>
    if heading = "group".toList then
      some (.grouping inner)
    else
      (Mark.ofChars? heading).map fun mark => .unary (mark.token 0) inner
  | [left, right] => (Mark.ofChars? heading).map fun mark => .binary left (mark.token 0) right
  | _ => none

/-- Reads a printed tree of at most the given depth from the front of a text. -/
def read : Nat → List Char → Option (Expr × List Char)
  | below + 1, '(' :: text => do
    let heading := text.takeWhile (· ≠ ' ')
    let (operands, rest) ← readOperands (read below) (text.drop (heading.length + 1))
    let node ← node? heading operands
    some (node, rest)
  | _, text => some (readLiteral text)

section Read

variable {operand : List Char → Option (Expr × List Char)} {text rest : List Char}

theorem readOperands_one {inner : Expr} (reads : operand text = some (inner, ')' :: rest)) :
    readOperands operand text = some ([inner], rest) := by
  rw [readOperands, reads]
  rfl

theorem readOperands_two {left right : Expr} {after : List Char}
    (first : operand text = some (left, ' ' :: after))
    (second : operand after = some (right, ')' :: rest)) :
    readOperands operand text = some ([left, right], rest) := by
  rw [readOperands, first]
  show (operand after >>= _) = _
  rw [second]
  rfl

theorem node?_group (inner : Expr) : node? "group".toList [inner] = some (.grouping inner) := rfl

theorem node?_unary (mark : Mark) (operand : Expr) :
    node? mark.chars [operand] = some (.unary (mark.token 0) operand) := by
  rw [node?, if_neg mark.chars_ne_group, Mark.ofChars?_chars, Option.map_some]

theorem node?_binary (mark : Mark) (left right : Expr) :
    node? mark.chars [left, right] = some (.binary left (mark.token 0) right) := by
  rw [node?, Mark.ofChars?_chars, Option.map_some]

theorem read_node {below : Nat} {heading : List Char} {operands : List Expr} {node : Expr}
    (none : ' ' ∉ heading) (reads : readOperands (read below) text = some (operands, rest))
    (forms : node? heading operands = some node) :
    read (below + 1) ('(' :: (heading ++ ' ' :: text)) = some (node, rest) := by
  have drop : (heading ++ ' ' :: text).drop (heading.length + 1) = text := by
    rw [← List.drop_drop, List.drop_left, List.drop_one, List.tail_cons]
  simp only [read, takeWhile_of_notMem none, drop, reads]
  show (node? heading operands >>= _) = _
  rw [forms]
  rfl

theorem read_of_ne {c : Char} (other : c ≠ '(') (nesting : Nat) (text : List Char) :
    read nesting (c :: text) = some (readLiteral (c :: text)) := by
  unfold read
  split
  · next same => exact absurd (List.cons.inj same).1 other
  · rfl

theorem readLiteral_append (plain : ∀ c ∈ text, delimits c = false)
    (ends : ∀ c ∈ rest.head?, delimits c = true) :
    readLiteral (text ++ rest) = (.literal (Value.ofEcho text), rest) := by
  have pass : ∀ c ∈ text, (!delimits c) = true := fun c mem => by rw [plain c mem]; rfl
  have stop : rest.takeWhile (!delimits ·) = [] ∧ rest.dropWhile (!delimits ·) = rest := by
    cases rest with
    | nil => exact ⟨rfl, rfl⟩
    | cons c rest => simp [ends c rfl]
  rw [readLiteral, List.takeWhile_append_of_pos pass, List.dropWhile_append_of_pos pass, stop.1,
    stop.2, List.append_nil]

end Read

theorem toList_print_unary (operator : Token) (operand : Expr) (rest : List Char) :
    (unary operator operand).print.toList ++ rest =
      '(' :: (operator.lexeme.toList ++ ' ' :: (operand.print.toList ++ ')' :: rest)) := by
  simp [print]

theorem toList_print_binary (left : Expr) (operator : Token) (right : Expr) (rest : List Char) :
    (binary left operator right).print.toList ++ rest =
      '(' :: (operator.lexeme.toList ++ ' ' :: (left.print.toList ++
        ' ' :: (right.print.toList ++ ')' :: rest))) := by
  simp [print]

theorem toList_print_grouping (inner : Expr) (rest : List Char) :
    (grouping inner).print.toList ++ rest =
      '(' :: ("group".toList ++ ' ' :: (inner.print.toList ++ ')' :: rest)) := by
  simp [print]

/-- A literal is read up to the next delimiter, at any depth. -/
theorem read_echo_append {value : Value} (plain : value.Plain) (nesting : Nat) {rest : List Char}
    (ends : ∀ c ∈ rest.head?, delimits c = true) :
    read nesting (value.echo.toList ++ rest) = some (.literal value, rest) := by
  have inside := plain.delimits_of_mem_echo
  have literal := readLiteral_append inside ends
  rw [plain.ofEcho_echo] at literal
  obtain ⟨c, more, text⟩ := List.exists_cons_of_ne_nil plain.echo_ne_nil
  have other : c ≠ '(' := by
    rintro rfl
    cases inside '(' (text ▸ List.mem_cons_self)
  rw [text, List.cons_append] at literal ⊢
  rw [read_of_ne other, literal]

/-- A printed tree is read up to where it ends. -/
theorem Spelled.read_print_append {expr : Expr} (spelled : expr.Spelled) {nesting : Nat}
    (bound : expr.depth ≤ nesting) {rest : List Char}
    (ends : ∀ c ∈ rest.head?, delimits c = true) :
    read nesting (expr.print.toList ++ rest) = some (expr.relabel Token.unlined, rest) := by
  have stops {c : Char} (delimiter : delimits c = true) (text : List Char) :
      ∀ d ∈ (c :: text).head?, delimits d = true := by
    rintro d ⟨⟩
    exact delimiter
  -- A space or a parenthesis comes after each operand, which is all that reading it relies on.
  induction spelled generalizing nesting rest with
  | literal plain => exact read_echo_append plain nesting ends
  | unary mark line inner ih =>
    cases nesting with
    | zero => cases bound
    | succ below =>
      have reads := readOperands_one (ih (Nat.le_of_succ_le_succ bound) (stops rfl rest))
      rw [toList_print_unary, mark.toList_lexeme_token,
        read_node mark.space_notMem_chars reads (node?_unary mark _)]
      rfl
  | binary mark line first second ihl ihr =>
    cases nesting with
    | zero => cases bound
    | succ below =>
      obtain ⟨boundl, boundr⟩ := max_le_iff.1 (Nat.le_of_succ_le_succ bound)
      have reads := readOperands_two (ihl boundl (stops rfl _)) (ihr boundr (stops rfl rest))
      rw [toList_print_binary, mark.toList_lexeme_token,
        read_node mark.space_notMem_chars reads (node?_binary mark _ _)]
      rfl
  | grouping inside ih =>
    cases nesting with
    | zero => cases bound
    | succ below =>
      have reads := readOperands_one (ih (Nat.le_of_succ_le_succ bound) (stops rfl rest))
      rw [toList_print_grouping, read_node (by decide) reads (node?_group _)]
      rfl

end Expr

namespace Token.Legible

variable {token : Token}

theorem eq_mark_token (legible : token.Legible) {mark : Mark} (kind : token.kind = .mark mark) :
    token = mark.token token.line := by
  cases legible with
  | lexeme admits spells =>
    cases spells with
    | mark =>
      cases kind
      rfl
    | string | number | keyword | identifier => cases kind
  | finish => cases kind

theorem plain_of_denotes (legible : token.Legible) {value : Value}
    (denotes : token.kind.Denotes value) (other : value.kind ≠ .string) : value.Plain := by
  cases legible with
  | lexeme admits spells =>
    cases spells with
    | mark | identifier => cases denotes
    | string =>
      cases denotes
      exact absurd rfl other
    | number =>
      cases denotes
      exact Value.plain_of_toFloat _
    | keyword keyword =>
      cases denotes with
      | true => exact .boolean true
      | false => exact .boolean false
      | nil => exact .nil
  | finish => cases denotes

end Token.Legible

namespace Expr

/-- Trees of lexemes are spelled if they hold no strings. -/
theorem Yields.spelled {expr : Expr} {tokens : List Token} (yields : expr.Yields tokens)
    (layered : expr.Layered) (legible : ∀ token ∈ tokens, token.Legible)
    (free : ∀ value ∈ expr.literals, value.kind ≠ .string) : expr.Spelled := by
  induction yields with
  | literal denotes =>
    have token := legible _ List.mem_cons_self
    exact .literal (token.plain_of_denotes denotes (free _ List.mem_cons_self))
  | unary inner ih =>
    rw [List.forall_mem_cons] at legible
    cases layered with
    | unary sign within =>
      have spelled := ih within legible.2 free
      rcases sign with sign | sign
      · rw [legible.1.eq_mark_token sign]
        exact .unary .minus _ spelled
      · rw [legible.1.eq_mark_token sign]
        exact .unary .bang _ spelled
  | binary first second ihl ihr =>
    rw [List.forall_mem_append, List.forall_mem_cons] at legible
    rw [literals, List.forall_mem_append] at free
    cases layered with
    | binary joins left right =>
      obtain ⟨mark, -, kind⟩ := joins
      rw [legible.2.1.eq_mark_token kind]
      exact .binary mark _ (ihl left legible.1 free.1) (ihr right legible.2.2 free.2)
  | grouping opens closes inside ih =>
    rw [List.forall_mem_append, List.forall_mem_cons] at legible
    cases layered with
    | grouping within => exact .grouping (ih within legible.1.2 free)

variable {source source' : String} {expr left right : Expr}

/-- The tree of an accepted source without strings is read back from its printed form. -/
theorem read_print (accepted : ofSource source = .ok expr)
    (free : ∀ value ∈ expr.literals, value.kind ≠ .string) :
    read maxDepth expr.print.toList = some (expr.relabel Token.unlined, []) := by
  obtain ⟨-, yields, layered, shallow⟩ := ofSource_eq_ok_iff.1 accepted
  have spelled := yields.spelled layered (Token.legible_of_mem_tokens 1) free
  have ends : ∀ c ∈ ([] : List Char).head?, delimits c = true := nofun
  have reads := spelled.read_print_append shallow ends
  rwa [List.append_nil] at reads

/-- Accepted sources without strings whose trees are printed alike have the same tree, but for the
lines of its operators. -/
theorem printed_tree_is_unambiguous (accepted : ofSource source = .ok left)
    (accepted' : ofSource source' = .ok right)
    (free : ∀ value ∈ left.literals, value.kind ≠ .string)
    (free' : ∀ value ∈ right.literals, value.kind ≠ .string) (same : left.print = right.print) :
    left.relabel Token.unlined = right.relabel Token.unlined := by
  have reads := read_print accepted free
  rw [same, read_print accepted' free'] at reads
  exact (congrArg Prod.fst (Option.some.inj reads)).symm

/-- Only the lines of the difference and of the inner negation are not the same. -/
theorem same_print_in_other_layout :
    let negation (line : Nat) : Expr := .unary ⟨.mark .minus, "-", line⟩ (.literal .nil)
    let tree (line : Nat) : Expr :=
      .binary (.grouping (negation 1)) ⟨.mark .minus, "-", line⟩ (negation line)
    ofSource "(-nil) - -nil" = .ok (tree 1) ∧ ofSource "(-nil) // no sum\n--nil" = .ok (tree 2) ∧
      (tree 1).print = "(- (group (- nil)) (- nil))" ∧ (tree 1).print = (tree 2).print ∧
      (tree 1).relabel Token.unlined = (tree 2).relabel Token.unlined := by
  intro negation tree
  have accepted : ofSource "(-nil) - -nil" = .ok (tree 1) := by cbv
  have accepted' : ofSource "(-nil) // no sum\n--nil" = .ok (tree 2) := by cbv
  have free : ∀ value ∈ (tree 1).literals, value.kind ≠ .string := by
    simp [tree, negation, literals, Value.kind]
  have free' : ∀ value ∈ (tree 2).literals, value.kind ≠ .string := by
    simp [tree, negation, literals, Value.kind]
  have same : (tree 1).print = (tree 2).print := by cbv
  exact ⟨accepted, accepted', by cbv, same,
    printed_tree_is_unambiguous accepted accepted' free free' same⟩

end Expr

end LoxExpressions
