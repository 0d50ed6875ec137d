import GameJam.Pattern.Class

/-!
# Patterns as they are written

The tree of a pattern before its flags are applied.  Nothing here knows whether case is ignored;
the meaning of a letter, a dot or an anchor is settled when the tree is given its flags.

## What is here

* `ClassExpr` — what stands between brackets, or a class written with a backslash.
* `FlagChange` — the flags switched on and off by a group such as `(?i-s)`.
* `Expr`, and `Expr.depth`, which bounds how deeply a pattern may be nested.
-/

set_option autoImplicit false

namespace GameJam
namespace Pattern

/-- The classes written by one letter. -/
inductive PerlClass where
  | digit
  | space
  | word
deriving DecidableEq, Repr

/-- The operations on classes. -/
inductive SetOp where
  | inter
  | diff
  | either
deriving DecidableEq, Repr

/-- A class as it is written. -/
inductive ClassExpr where
  | range (low high : Char)
  | perl (kind : PerlClass) (negated : Bool)
  /-- A class with an ASCII name, as its ranges. -/
  | ascii (ranges : List (Char × Char)) (negated : Bool)
  | property (negated : Bool) (name : String) (value : Option String)
  | bracket (negated : Bool) (set : ClassExpr)
  | union (items : List ClassExpr)
  | binary (op : SetOp) (a b : ClassExpr)

/-- The flags of a pattern. -/
inductive Flag where
  | ignoreCase
  | multiLine
  | dotAll
  | swapGreed
  | unicode
  | carriageReturn
  | verbose
deriving DecidableEq, Repr

/-- The flags a group switches, each with whether it goes on, in the order written. -/
abbrev FlagChange := List (Flag × Bool)

/-- What a change says of a flag: the first mention counts. -/
def FlagChange.state? (change : FlagChange) (flag : Flag) : Option Bool :=
  (change.find? fun entry => entry.1 == flag).map Prod.snd

/-- The places that a pattern can ask for. -/
inductive Anchor where
  | lineStart
  | lineEnd
  | textStart
  | textEnd
  | wordBoundary
  | notWordBoundary
  | wordStart
  | wordEnd
  | wordStartHalf
  | wordEndHalf
deriving DecidableEq, Repr

/-- A pattern as it is written. -/
inductive Expr where
  | empty
  /-- A character; `byte` if it is written by two hexadecimal digits. -/
  | literal (c : Char) (byte : Bool)
  | dot
  | anchor (a : Anchor)
  | cls (c : ClassExpr)
  | flags (change : FlagChange)
  | repeated (sub : Expr) (least : Nat) (most : Option Nat)
  /-- A group; one without flags captures what it matches. -/
  | group (change : Option FlagChange) (sub : Expr)
  | alternation (subs : List Expr)
  | concat (subs : List Expr)

mutual

/-- How deeply the operations of a class are nested. -/
def ClassExpr.depth : ClassExpr → Nat
  | .bracket _ set => set.depth + 1
  | .union items => depthItems items + 1
  | .binary _ a b => max a.depth b.depth + 1
  | _ => 0

/-- The greatest depth among some classes. -/
def ClassExpr.depthItems : List ClassExpr → Nat
  | [] => 0
  | item :: rest => max item.depth (ClassExpr.depthItems rest)

end

mutual

/-- How deeply the parts of a pattern are nested. -/
def Expr.depth : Expr → Nat
  | .cls c => match c with
    | .bracket .. => c.depth
    | _ => 0
  | .repeated sub _ _ => sub.depth + 1
  | .group _ sub => sub.depth + 1
  | .alternation subs => Expr.depthItems subs + 1
  | .concat subs => Expr.depthItems subs + 1
  | _ => 0

/-- The greatest depth among some patterns. -/
def Expr.depthItems : List Expr → Nat
  | [] => 0
  | sub :: rest => max sub.depth (Expr.depthItems rest)

end

end Pattern
end GameJam
