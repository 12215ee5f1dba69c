import Aico.Foundation.RegExp
import Aico.Json.Ascii

/-!
# The text of a pattern

`RegExp.compile` reads the text of a pattern into a node: first its tokens, then the groups
they form. Read are ASCII units, the escapes of `/`, `n`, `d`, `s` and `b`, classes without
ranges, groups, alternatives, the anchors and the greedy quantifiers `?`, `+` and `{m,n}`,
where `+` follows a unit or a class. A pattern with anything else is refused.
-/

namespace RegExp

inductive Token where
  | units (c : UnitClass)
  | wordBoundary
  | start
  | stop
  | opening (captures : Bool)
  | closing
  | bar
  | times (least : ℕ) (most : Option ℕ)

def escaped : Char → Option ClassItem
  | 'd' => some .digit
  | 's' => some .space
  | 'n' => some (.unit 0x0A)
  | '/' => some (.unit 0x2F)
  | _ => none

def literal (c : Char) : Option ClassItem :=
  if c.toNat < 0x80 then some (.unit (UInt16.ofNat c.toNat)) else none

/-- The characters that stand for themselves in a class only. -/
def special : List Char := [ '.', '*', '+', '?', '(', ')', '[', ']', '{', '}', '|', '^', '$' ]

def quantity (c : Char) : Option ℕ := if c.isDigit then some (c.toNat - 0x30) else none

def tokens : Option UnitClass → List Char → Option (List Token)
  | none, [] => some []
  | some _, [] => none
  | some c, ']' :: rest => do
      let others ← tokens none rest
      some (.units c :: others)
  | some c, '\\' :: e :: rest => do
      let item ← escaped e
      tokens (some { c with items := item :: c.items }) rest
  | some c, u :: rest => do
      -- between two items a hyphen would make a range
      if u = '-' ∧ c.items ≠ [] then none
      else
        let item ← literal u
        tokens (some { c with items := item :: c.items }) rest
  | none, '\\' :: 'b' :: rest => do
      let others ← tokens none rest
      some (.wordBoundary :: others)
  | none, '\\' :: e :: rest => do
      let item ← escaped e
      let others ← tokens none rest
      some (.units ⟨false, [item]⟩ :: others)
  | none, '[' :: '^' :: rest => tokens (some ⟨true, []⟩) rest
  | none, '[' :: rest => tokens (some ⟨false, []⟩) rest
  | none, '(' :: '?' :: ':' :: rest => do
      let others ← tokens none rest
      some (.opening false :: others)
  | none, '(' :: rest => do
      let others ← tokens none rest
      some (.opening true :: others)
  | none, ')' :: rest => do
      let others ← tokens none rest
      some (.closing :: others)
  | none, '|' :: rest => do
      let others ← tokens none rest
      some (.bar :: others)
  | none, '^' :: rest => do
      let others ← tokens none rest
      some (.start :: others)
  | none, '$' :: rest => do
      let others ← tokens none rest
      some (.stop :: others)
  | none, '?' :: rest => do
      let others ← tokens none rest
      some (.times 0 (some 1) :: others)
  | none, '+' :: rest => do
      let others ← tokens none rest
      some (.times 1 none :: others)
  | none, '{' :: m :: ',' :: n :: '}' :: rest => do
      let least ← quantity m
      let most ← quantity n
      let others ← tokens none rest
      some (.times least (some most) :: others)
  | none, u :: rest => do
      if u ∈ special then none
      else
        let item ← literal u
        let others ← tokens none rest
        some (.units ⟨false, [item]⟩ :: others)

namespace Node

def power (r q : Node) : ℕ → Node
  | 0 => q
  | least + 1 => .seq r (power r q least)

/-- At most `n` times the node, as often as can be. -/
def optionals (r : Node) : ℕ → Node
  | 0 => .empty
  | n + 1 => .alt (.seq r (optionals r n)) .empty

def times (r : Node) (least : ℕ) : Option ℕ → Option Node
  | some most => if most < least then none else some (r.power (r.optionals (most - least)) least)
  | none =>
      match r with
      | .unit c => some (power (.unit c) (.star c) least)
      | _ => none

end Node

/-- A group that is being read, with the last of its terms and of its earlier alternatives
first. -/
structure Frame where
  index : Option ℕ
  choices : List Node
  terms : List Node

namespace Frame

/-- The alternative that is being read. -/
def choice (f : Frame) : Node := f.terms.foldl (fun q r => .seq r q) .empty

def node (f : Frame) : Node :=
  let choices := f.choices.foldl (fun q r => .alt r q) f.choice
  match f.index with
  | some index => .group index choices
  | none => choices

end Frame

/-- The node of tokens that follow in a group, inside the groups `outer`, where `opened`
groups that capture have been opened. -/
def parse (opened : ℕ) (f : Frame) (outer : List Frame) : List Token → Option Node
  | [] => if outer.isEmpty then some f.node else none
  | .units c :: rest => parse opened { f with terms := .unit c :: f.terms } outer rest
  | .wordBoundary :: rest => parse opened { f with terms := .wordBoundary :: f.terms } outer rest
  | .start :: rest => parse opened { f with terms := .start :: f.terms } outer rest
  | .stop :: rest => parse opened { f with terms := .stop :: f.terms } outer rest
  | .opening true :: rest =>
      parse (opened + 1) ⟨some (opened + 1), [], []⟩ (f :: outer) rest
  | .opening false :: rest => parse opened ⟨none, [], []⟩ (f :: outer) rest
  | .closing :: rest =>
      match outer with
      | [] => none
      | g :: outer => parse opened { g with terms := f.node :: g.terms } outer rest
  | .bar :: rest =>
      parse opened { f with choices := f.choice :: f.choices, terms := [] } outer rest
  -- a quantifier behind another one would make it lazy
  | .times _ _ :: .times _ _ :: _ => none
  | .times least most :: rest =>
      match f.terms with
      | [] => none
      | r :: terms => do
          let repeated ← r.times least most
          parse opened { f with terms := repeated :: terms } outer rest

def compile (ignoreCase : Bool) (pattern : String) : Option RegExp := do
  let read ← tokens none pattern.toList
  let node ← parse 0 ⟨none, [], []⟩ [] read
  some ⟨node, ignoreCase⟩

/-- The regular expression of the characters of a pattern. -/
def compileChars (ignoreCase : Bool) (chars : List Char) : Option RegExp := do
  let read ← tokens none chars
  let node ← parse 0 ⟨none, [], []⟩ [] read
  some ⟨node, ignoreCase⟩

theorem compile_of_isAscii {ignoreCase : Bool} {pattern : String}
    (h : JsString.isAscii pattern = true) :
    compile ignoreCase pattern = compileChars ignoreCase (JsString.asciiChars pattern) := by
  rw [← JsString.toList_of_isAscii h]
  rfl

def tests (ignoreCase : Bool) (pattern : String) (text : JsString) : Bool :=
  (compile ignoreCase pattern).any fun re => re.test text

end RegExp
