import ENavigator.Propagation.Http1

/-!
# `tracestate` values

The list grammar of the vendor header as the source checks it: one pass over the members, and for each
of them a second pass over those before it that looks for its key.
-/

namespace ENavigator.Propagation

def maxTracestateBytes : Nat := 512

inductive TraceStateError where
  | malformedHttp1 | tooLong | tooManyMembers | invalidKey | invalidValue | duplicateKey

def validTracestateKeyByte (b : UInt8) : Bool :=
  isAsciiLowercase b || isAsciiDigit b || b == 95 || b == 45 || b == 42 || b == 47

def validTracestateKey (key : Bytes) : Bool :=
  match findByte key 64 with
  | none => key.length ≤ 256 && key.head?.any isAsciiLowercase && key.all validTracestateKeyByte
  | some at_ =>
    let system := key.drop (at_ + 1)
    let tenant := key.take at_
    (findByte system 64).isNone
      && !tenant.isEmpty && tenant.length ≤ 241
      && tenant.head?.any (fun b => isAsciiLowercase b || isAsciiDigit b)
      && tenant.all validTracestateKeyByte
      && !system.isEmpty && system.length ≤ 14
      && system.head?.any isAsciiLowercase && system.all validTracestateKeyByte

def validTracestateValue (value : Bytes) : Bool :=
  !value.isEmpty && value.length ≤ 256 && value.getLast?.any (· != 32)
    && value.all fun b => 0x20 ≤ b && b ≤ 0x7e && b != 44 && b != 61

/-- The members of `value[memberStart..currentStart]`, one turn each. -/
def keySeenFrom (value : Bytes) (currentStart : Nat) (key : Bytes) : Nat → Nat → Bool
  | 0, _ => false
  | fuel + 1, memberStart =>
    if memberStart < currentStart then
      let remaining := (value.take currentStart).drop memberStart
      let relativeEnd := (findByte remaining 44).getD remaining.length
      let member := trimOws (remaining.take relativeEnd)
      if (findByte member 61).any (fun equals => member.take equals == key) then true
      else keySeenFrom value currentStart key fuel (memberStart + relativeEnd + 1)
    else false

def tracestateKeySeenBefore (value : Bytes) (currentStart : Nat) (key : Bytes) : Bool :=
  keySeenFrom value currentStart key (currentStart + 1) 0

/-- One member, without the search for its key among those before it. -/
def tracestateMember (member : Bytes) : Except TraceStateError Bytes := do
  if member.isEmpty then throw .invalidValue
  match findByte member 61 with
  | none => throw .invalidKey
  | some equals =>
    if !validTracestateKey (member.take equals) then throw .invalidKey
    if !validTracestateValue (member.drop (equals + 1)) then throw .invalidValue
    pure (member.take equals)

/-- The members from `memberStart` on, `members` of them read before. A turn passes at least one byte
or ends. -/
def validateMembers (value : Bytes) : Nat → Nat → Nat → Except TraceStateError Unit
  | 0, _, _ => throw .invalidValue
  | fuel + 1, members, memberStart => do
    if members + 1 > 32 then throw .tooManyMembers
    let remaining := value.drop memberStart
    let relativeEnd := (findByte remaining 44).getD remaining.length
    let key ← tracestateMember (trimOws (remaining.take relativeEnd))
    if tracestateKeySeenBefore value memberStart key then throw .duplicateKey
    if memberStart + relativeEnd = value.length then pure ()
    else validateMembers value fuel (members + 1) (memberStart + relativeEnd + 1)

def validateTracestate (value : Bytes) : Except TraceStateError Unit :=
  if value.length > maxTracestateBytes then .error .tooLong
  else if value.isEmpty then .error .invalidValue
  else validateMembers value (value.length + 1) 0 0

end ENavigator.Propagation
