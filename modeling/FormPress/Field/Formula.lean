import FormPress.Form.Basic
import FormPress.Text.Blank

/-!
# Formulas

An expression holds placeholders: a pair of braces around at least one character, none of them a
brace. Everything else is text. The pieces of an expression, written again, are the expression.
-/

namespace FormPress.Formula

inductive Piece where
  | text (chars : List Char)
  | hole (chars : List Char)
deriving DecidableEq, Repr

/-- A piece as it stood in the expression. -/
def Piece.chars : Piece → List Char
  | .text cs => cs
  | .hole cs => '\x7b' :: cs ++ ['\x7d']

/-- What has been read since the last piece: nothing, or an open brace with the characters after it,
the last first. -/
abbrev Pending := Option (List Char)

/-- The pending characters as text. -/
def flush : Pending → List Piece
  | none => []
  | some seen => [.text ('\x7b' :: seen.reverse)]

/-- The pieces of an expression after pending characters. -/
def scan (pending : Pending) : List Char → List Piece
  | [] => flush pending
  | c :: rest =>
    if c = '\x7b' then flush pending ++ scan (some []) rest
    else
      match pending with
      | none => .text [c] :: scan none rest
      | some seen =>
        if c = '\x7d' then
          (if seen.isEmpty then .text ['\x7b', '\x7d'] else .hole seen.reverse) :: scan none rest
        else scan (some (c :: seen)) rest

def pieces (expression : String) : List Piece :=
  scan none expression.toList

theorem flatMap_scan (pending : Pending) (cs : List Char) :
    (scan pending cs).flatMap Piece.chars = (flush pending).flatMap Piece.chars ++ cs := by
  fun_induction scan pending cs with
  | case1 pending => simp
  | case2 pending rest ih => simp [ih, flush, Piece.chars]
  | case3 c rest hc ih => simp [ih, flush, Piece.chars]
  | case4 rest seen hc ih =>
    by_cases hs : seen = [] <;> simp [ih, flush, Piece.chars, hs]
  | case5 c rest hc seen hs ih => simp [ih, flush, Piece.chars]

/-- No character of an expression is lost in its pieces. -/
theorem flatMap_pieces (expression : String) :
    (pieces expression).flatMap Piece.chars = expression.toList := by
  simp [pieces, flatMap_scan, flush]

/-- The reference in a placeholder: its characters without blanks at the ends. -/
def Piece.reference? : Piece → Option String
  | .text _ => none
  | .hole cs => some (String.ofList (Text.stripBy Text.isBlank cs))

/-- A piece with its reference replaced by the id of the field it names, if it names one. -/
def Piece.resolve (fields : List Field) (p : Piece) : List Char :=
  match p.reference?.bind (resolve? fields) with
  | some f => (Piece.hole f.id.toList).chars
  | none => p.chars

/-- An expression with ids for the references that name a field. -/
def resolve (expression : String) (fields : List Field) : String :=
  String.ofList ((pieces expression).flatMap (Piece.resolve fields))

/-- The references of a formula, each once: those of its placeholders, then the declared ones. -/
def references (f : Formula) : List String :=
  Table.distinct
    (((pieces f.expression).filterMap Piece.reference? ++ f.referenced).filter (· != ""))

end FormPress.Formula
