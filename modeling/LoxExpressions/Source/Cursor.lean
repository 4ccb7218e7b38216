/-!
A position in a source text. Every movement passes over a number of characters, and the line and
the byte offset of a position are those of the text before it.
-/

namespace LoxExpressions

def utf8Length : List Char → Nat
  | [] => 0
  | c :: rest => c.utf8Size + utf8Length rest

structure Cursor where
  source : List Char
  rest : List Char
  line : Nat

namespace Cursor

def start (source : List Char) : Cursor := ⟨source, source, 1⟩

/-- The position after `count` more characters, or at the end if fewer are left. -/
def pass (cursor : Cursor) (count : Nat) : Cursor where
  source := cursor.source
  rest := cursor.rest.drop count
  line := cursor.line + (cursor.rest.take count).count '\n'

def finish (source : List Char) : Cursor := (start source).pass source.length

def isAtEnd (cursor : Cursor) : Bool := cursor.rest.isEmpty

/-- Bytes of the source before the position. -/
def offset (cursor : Cursor) : Nat := utf8Length cursor.source - utf8Length cursor.rest

def peek? (cursor : Cursor) : Option Char := cursor.rest.head?

def peekNext? (cursor : Cursor) : Option Char := cursor.rest.tail.head?

def next (cursor : Cursor) : Option Char × Cursor := (cursor.peek?, cursor.pass 1)

def skip (cursor : Cursor) (count : Nat) : List Char × Cursor :=
  (cursor.rest.take count, cursor.pass count)

def advanceIf (cursor : Cursor) (expected : Char) : Bool × Cursor :=
  if cursor.peek? = some expected then (true, cursor.pass 1) else (false, cursor)

def advanceWhile (cursor : Cursor) (test : Char → Bool) : Cursor :=
  cursor.pass (cursor.rest.takeWhile test).length

/-- The text from one position to a later one of the same source, empty if that is not later. -/
def sliceUntil (cursor later : Cursor) : List Char :=
  cursor.rest.take (cursor.rest.length - later.rest.length)

/-- Positions are equal if they have the same source and the same text before them. -/
instance : BEq Cursor where
  beq a b := a.source == b.source && a.rest == b.rest

@[simp]
theorem rest_pass (cursor : Cursor) (count : Nat) :
    (cursor.pass count).rest = cursor.rest.drop count := rfl

@[simp]
theorem line_finish (source : List Char) : (finish source).line = 1 + source.count '\n' := by
  simp [finish, start, pass]

end Cursor

end LoxExpressions
