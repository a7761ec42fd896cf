import RenderTrace.Syntax.Grammar.Type
import RenderTrace.Token.Integer

/-!
# Patterns

A pattern that is a constant, a path, a range or a macro is the tree of that expression.
-/

namespace RenderTrace.Syntax.Grammar

open Reader Probe

variable (self : Readers)

/-- A bar between alternatives, which no longer operator begins. -/
def bar : Probe := (Probe.op "|").butNot (Probe.any [Probe.op "||", Probe.op "|="])

/-- A pattern with alternatives, behind `leading`, a first bar that may be missing. -/
def alternatives (leading : Node) : Reader Node := do
  let first ← self .pattern
  if leading.isAbsent && !(← peek bar) then return first
  let more ← repeatNodes do
    if ← peek bar then return ([← op "|", ← self .pattern], true)
    return ([], false)
  return .node .patOr [.list [], leading, .list (first :: more)]

/-- A pattern with alternatives and perhaps a bar in front. -/
def patternWithAlternatives : Reader Node := do
  alternatives self (← op? "|")

/-- A macro call behind its path. -/
def macroAfter (p : Node) : Reader Node := do
  let bang ← op "!"
  return .node .macroCall [p, bang, ← unreadGroup]

/-- Whether a macro's exclamation mark comes next. -/
def macroBang : Probe := (Probe.op "!").butNot (Probe.op "!=")

/-- Whether a literal, perhaps behind a minus sign, is a whole number. -/
def isInteger (t : String) : Bool :=
  (Token.Integer.ofLiteral? (if t.startsWith "-" then (t.drop 1).toString else t)).isSome

/-- Whether a literal, perhaps behind a minus sign, is a number. -/
def isNumber (t : String) : Bool :=
  (if t.startsWith "-" then (t.drop 1).toString else t).toList.head?.any Char.isDigit

/-- The literal that comes next, perhaps behind a minus sign. -/
def literalAhead? : List TokenTree → Option String
  | .literal t _ :: _ => some t
  | .punct '-' _ _ :: .literal t _ :: _ => some ("-" ++ t)
  | _ => none

/-- A whole number comes next. -/
def integerNext : Probe := fun ts => (literalAhead? ts).any isInteger

/-- A fractional number comes next. -/
def fractionNext : Probe := fun ts => (literalAhead? ts).any fun t => isNumber t && !isInteger t

/-- The largest number of a field. -/
def maxIndex : Nat := 4294967295

/-- The number of a field by its spelling: a whole number without a sign and without a suffix; or
what is wrong with the spelling. -/
def indexOf (t : String) : Except String Nat :=
  match Token.Integer.ofLiteral? (if t.startsWith "-" then (t.drop 1).toString else t) with
  | none => .error "expected integer literal"
  | some n =>
    if !n.suffix.isEmpty then .error "expected unsuffixed integer"
    else if t.startsWith "-" then .error "invalid digit found in string"
    else if n.value > maxIndex then .error "number too large to fit in target type"
    else .ok n.value

/-- The field with a number, which the tree keeps without base and underscores. -/
def indexAt (span : Span) (t : String) : Reader Node :=
  match indexOf t with
  | .ok n => return .token .literal (toString n) span
  | .error message => failAt span message

/-- The number of a field. -/
def index : Reader Node := do
  match ← Reader.literal with
  | .token _ t span => indexAt span t
  | _ => fail "expected integer literal"

/-- A field: its name or its number. -/
def member : Reader Node := do
  if ← peek Probe.name then return ← Reader.name
  if ← peek integerNext then return ← index
  fail "expected identifier or integer"

/-- Whether a field is named. -/
def isNamed : Node → Bool
  | .token .word _ _ => true
  | _ => false

/-- A name bound by a pattern. -/
def patIdent : Reader Node := do
  let ref_ ← keyword? "ref"
  let mut_ ← keyword? "mut"
  let n ← if ← peek (Probe.keyword "self") then anyWord else Reader.name
  let at_ ← op? "@"
  let sub ← if at_.isAbsent then pure .absent else self .pattern
  return .node .patIdent [.list [], ref_, mut_, n, at_, sub]

/-- A field of a struct pattern. -/
def fieldPattern : Reader Node := do
  let attrs ← outerAttributes self
  let ((box_, ref_, mut_, m), trees) ← taking do
    let box_ ← keyword? "box"
    let ref_ ← keyword? "ref"
    let mut_ ← keyword? "mut"
    let marked := !(box_.isAbsent && ref_.isAbsent && mut_.isAbsent)
    return (box_, ref_, mut_, ← if marked then Reader.name else member)
  let marked := !(box_.isAbsent && ref_.isAbsent && mut_.isAbsent)
  if (!marked && (← peek (Probe.op ":"))) || !isNamed m then
    let colon ← op ":"
    return .node .fieldPat [attrs, m, colon, ← patternWithAlternatives self]
  if !box_.isAbsent then return .node .fieldPatShort [attrs, .node .verbatim [.unread trees]]
  return .node .fieldPatShort [attrs, .node .patIdent [.list [], ref_, mut_, m, .absent, .absent]]

/-- The fields of a struct pattern, to the `..` that may end them. -/
def fieldPatterns : Reader Node :=
  parts do
    if ← atEnd then return ([], false)
    let rest ← ahead? do
      let _ ← outerAttributes self
      op ".."
    if rest.isSome then
      let attrs ← outerAttributes self
      return ([.node .patRest [attrs, ← op ".."]], false)
    let f ← fieldPattern self
    if ← atEnd then return ([f], false)
    return ([f, ← op ","], true)

/-- The two ends of a range, the upper one included or not. The older `...` reads as `..=`. -/
def patternLimits : Reader Node := do
  if ← peek (Probe.op "..=") then return ← op "..="
  if ← peek (Probe.op "...") then
    let dots ← op "..."
    match dots with
    | .token c _ s => return .token c "..=" s
    | n => return n
  op ".."

/-- A block of constants. -/
def constBlock : Reader Node := do
  let const_ ← Reader.keyword "const"
  let (attrs, body) ← attributedBlock self
  return .node .exprConst [attrs, const_, body]

/-- An end of a range pattern, if there is one. -/
def rangeBound? : Reader (Option Node) := do
  if ← peek (Probe.any [List.isEmpty, Probe.op "|", Probe.op "=",
      (Probe.op ":").butNot (Probe.op "::"), Probe.op ",", Probe.op ";", Probe.keyword "if"]) then
    return none
  if ← peek Probe.literal then return some (.node .exprLit [.list [], ← Reader.literal])
  if ← peek (Probe.any [Probe.name, Probe.op "::", Probe.op "<", pathKeyword]) then
    return some (.node .exprPath [.list [], ← qualifiedPath self true])
  if ← peek (Probe.keyword "const") then return some (← constBlock self)
  expected ["literal", "identifier", shown "::", shown "<", shown "self", shown "Self",
    shown "super", shown "crate", shown "const"]

/-- The rest of a range pattern behind its lower end. -/
def rangePattern (start : Node) : Reader Node := do
  let limits ← patternLimits
  match ← rangeBound? self with
  | some stop => return .node .exprRange [.list [], start, limits, stop]
  | none =>
    if limits.text == "..=" then fail "expected range upper bound"
    return .node .exprRange [.list [], start, limits, .absent]

/-- A pattern that begins with a path. -/
def pathPattern : Reader Node := do
  let p ← qualifiedPath self true
  if (← peek macroBang) && isPlainPath p then
    return .node .exprMacro [.list [], ← macroAfter p]
  if ← peek brace then
    return .node .patStruct [.list [], p, ← groupOf .brace do return [← fieldPatterns self]]
  if ← peek paren then
    return .node .patTupleStruct
      [.list [], p, ← groupOf .paren do return [← commaList (patternWithAlternatives self)]]
  if ← peek (Probe.op "..") then return ← rangePattern self (.node .exprPath [.list [], p])
  return .node .exprPath [.list [], p]

/-- Patterns in parentheses: one of them, or a tuple. -/
def parenPattern : Reader Node := do
  let elems ← inGroup .paren (commaList (patternWithAlternatives self))
  match elems with
  | .node .list [one] =>
    if one.is .patRest then return .node .patTuple [.list [], .group .paren [elems]]
    return .node .patParen [.list [], .group .paren [one]]
  | _ => return .node .patTuple [.list [], .group .paren [elems]]

/-- The patterns of a slice, in which half a range needs parentheses. -/
def slicePattern : Reader Node := do
  let elems ← groupOf .bracket do
    return [← commaList do
      let p ← patternWithAlternatives self
      match p with
      | .node .exprRange [_, start, .token _ _ span, stop] =>
        if start.isAbsent || stop.isAbsent then
          failAt span "range pattern is not allowed unparenthesized inside slice pattern"
        return p
      | _ => return p]
  return .node .patSlice [.list [], elems]

/-- A pattern that begins with its upper end, or stands for what is left. -/
def openPattern : Reader Node := do
  let limits ← if ← peek (Probe.op "..=") then op "..=" else op ".."
  match ← rangeBound? self with
  | some stop => return .node .exprRange [.list [], .absent, limits, stop]
  | none =>
    if limits.text == "..=" then fail "expected range upper bound"
    return .node .patRest [.list [], limits]

/-- What may begin a pattern, as messages list it; two points are left out where three come next. -/
def patternBeginnings (dotsNext : Bool) : List String :=
  ["identifier", shown "::", shown "<", shown "_", "literal", shown "const", shown "ref",
    shown "mut", shown "&", "parentheses", "square brackets"] ++
    (if dotsNext then [] else [shown ".."]) ++ [shown "const"]

/-- A pattern without alternatives. -/
def pattern : Reader Node := do
  let pathAhead := Probe.any
    [second (Probe.op "::"), second (Probe.op "!"), second brace, second paren,
      second (Probe.op "..")]
  if ← peek (Probe.any [Probe.name.and pathAhead,
      (Probe.keyword "self").and (second (Probe.op "::")), Probe.op "::", Probe.op "<",
      Probe.keyword "Self", Probe.keyword "super", Probe.keyword "crate"]) then
    return ← pathPattern self
  if ← peek (Probe.keyword "_") then return .node .patWild [.list [], ← anyWord]
  if ← peek (Probe.keyword "box") then
    return ← verbatim do
      let _ ← Reader.keyword "box"
      self .pattern
  if ← peek (Probe.any [Probe.op "-", Probe.literal, Probe.keyword "const"]) then
    match ← rangeBound? self with
    | some start =>
      if ← peek (Probe.op "..") then return ← rangePattern self start
      return start
    | none => expected (patternBeginnings false)
  if ← peek (Probe.any [Probe.keyword "ref", Probe.keyword "mut", Probe.keyword "self",
      Probe.name]) then
    return ← patIdent self
  if ← peek (Probe.op "&") then
    let amp ← op "&"
    let mut_ ← keyword? "mut"
    return .node .patReference [.list [], amp, mut_, ← self .pattern]
  if ← peek paren then return ← parenPattern self
  if ← peek bracket then return ← slicePattern self
  let dotsNext ← peek (Probe.op "...")
  if !dotsNext && (← peek (Probe.op "..")) then return ← openPattern self
  expected (patternBeginnings dotsNext)

end RenderTrace.Syntax.Grammar
