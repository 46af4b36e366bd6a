import ParamSql.Proofs.Filter.Lexer

/-!
# Parsing conditions

A parser for boolean expressions over conditions: parentheses group, AND binds tighter than OR, and
the AND between the bounds of BETWEEN belongs to its condition. It goes through the tokens once,
with a frame for every group that is open.
-/
namespace ParamSql.Filter

/-- An expression whose end has not been reached: the alternatives that an OR has ended, and the
factors of the one that is being read. -/
structure Frame where
  alternatives : List (List Tree)
  factors : List Tree

namespace Frame

def start : Frame := ⟨[], []⟩

/-- One more factor. -/
def add (frame : Frame) (factor : Tree) : Frame := ⟨frame.alternatives, frame.factors ++ [factor]⟩

/-- The end of an alternative. -/
def divide (frame : Frame) : Frame := ⟨frame.alternatives ++ [frame.factors], []⟩

/-- What an operator between two factors does. -/
def proceed (frame : Frame) : Connective → Frame
  | .and => frame
  | .or => frame.divide

/-- The factors between two ORs; a single one stands for itself. -/
def conjunction : List Tree → Tree
  | [factor] => factor
  | factors => .group (some .and) factors

/-- The expression without parentheses around it. -/
def expression (frame : Frame) : Tree :=
  match frame.alternatives with
  | [] => conjunction frame.factors
  | alternatives => .group (some .or) ((alternatives ++ [frame.factors]).map conjunction)

/-- The expression in parentheses: a group also around a single factor. -/
def enclosed (frame : Frame) : Tree :=
  match frame with
  | ⟨[], [factor]⟩ => .group none [factor]
  | frame => frame.expression

end Frame

mutual

/-- Parse at the beginning of a factor, with the frame of the innermost open group and those
around it. -/
def parseFactor (top : Frame) (below : List Frame) : List Token → Option Tree
  | .opening :: rest => parseFactor .start (top :: below) rest
  | .word column :: .between :: .mark :: .and :: .mark :: rest =>
    parseOperator (top.add (.leaf ⟨column, "BETWEEN", 2⟩)) below rest
  | .word column :: .in :: .opening :: .mark :: rest => parseMarks column 1 top below rest
  | .word column :: .word operator :: .mark :: rest =>
    parseOperator (top.add (.leaf ⟨column, operator, 1⟩)) below rest
  | _ => none

/-- Parse the rest of a tuple of placeholders. -/
def parseMarks (column : String) (count : Nat) (top : Frame) (below : List Frame) :
    List Token → Option Tree
  | .comma :: .mark :: rest => parseMarks column (count + 1) top below rest
  | .closing :: rest => parseOperator (top.add (.leaf ⟨column, "IN", count⟩)) below rest
  | _ => none

/-- Parse behind a factor. -/
def parseOperator (top : Frame) (below : List Frame) : List Token → Option Tree
  | .and :: rest => parseFactor (top.proceed .and) below rest
  | .or :: rest => parseFactor (top.proceed .or) below rest
  | .closing :: rest =>
    match below with
    | outer :: below => parseOperator (outer.add top.enclosed) below rest
    | [] => none
  | [] => if below.isEmpty then some top.expression else none
  | _ => none

end

/-- The tree of a text, if it is an expression. -/
def parse (text : String) : Option Tree := parseFactor .start [] (Token.ofText text)

end ParamSql.Filter
