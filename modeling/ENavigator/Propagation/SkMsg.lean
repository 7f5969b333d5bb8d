import ENavigator.Lib.Filling
import ENavigator.Propagation.Traceparent
import ENavigator.Propagation.Tracestate

/-!
# Writing the headers into a socket message

The program that runs on each message of a tracked socket. If the thread has planned an injection and the message is the
one that was planned for, it makes room in it, has the room exposed and writes the headers; when a bound does not hold
it takes the room out again.

What the helpers of the kernel give is a parameter: each may fail, the room that is made holds any octets, and the
window that is exposed may be of any length. Addresses are natural numbers, and a store at an address of the window
changes the message at the same distance from the window's start.
-/

namespace ENavigator.Propagation

open Filling

def httpRequestBytes : Nat := 1024
def tracestateHeaderPrefix : Bytes := text "tracestate: "

structure RawHttpPropagationContext where
  state : Nat
  context : TraceContext
  insertAt : Nat
  startedAtNanos : Nat
  tracestateLen : Nat
  tracestate : Bytes
  insertAt_lt : insertAt < 2 ^ 16
  tracestate_length : tracestate.length = maxTracestateBytes

structure RawHttpRequestEvent where
  requestLen : Nat
  requestTotalLen : Nat
  propagation : RawHttpPropagationContext
  request : Bytes
  request_length : request.length = httpRequestBytes

def clearRawHttpPropagationContext (c : RawHttpPropagationContext) : RawHttpPropagationContext :=
  { c with state := 0, context := ⟨List.replicate 16 0, List.replicate 8 0, 0, rfl, rfl⟩, insertAt := 0,
           startedAtNanos := 0, tracestateLen := 0, insertAt_lt := by decide }

def contextIsFresh (startedAt now ttl : Nat) : Bool := startedAt ≠ 0 && now ≥ startedAt && now - startedAt < ttl

/-! ## Messages -/

/-- The addresses of the first octet that may be accessed and behind the last. -/
structure Window where
  data : Nat
  dataEnd : Nat

/-- A message, of which the window shows a first part. -/
structure SkMsgContext where
  message : Bytes
  window : Window
  data_le : window.data ≤ window.dataEnd
  dataEnd_le : window.dataEnd ≤ window.data + message.length

/-- What the helpers give, if they do not fail: the octets of the room, and a window on it. -/
structure Helpers where
  pushData : Option (Nat → UInt8)
  pullData : Option Window
  popData : Bool

inductive SkAction where
  | pass | drop

/-- What becomes of the message, and the event that is put out when the planned injection is finished. -/
structure SkMsgResult where
  action : SkAction
  message : Bytes
  event : Option RawHttpRequestEvent := none

/-- `finish_pending_http_propagation`: the context stays in the event only if it was injected. -/
def finishPendingHttpPropagation (event : RawHttpRequestEvent) (injected : Bool) : RawHttpRequestEvent :=
  if injected then event else { event with propagation := clearRawHttpPropagationContext event.propagation }

def bypassMessage (message : Bytes) (event : RawHttpRequestEvent) : SkMsgResult :=
  ⟨.pass, message, some (finishPendingHttpPropagation event false)⟩

def rollbackHttpPropagation (message : Bytes) (event : RawHttpRequestEvent) (popData : Bool)
    (insertAt insertedLen : Nat) : SkMsgResult :=
  if popData then ⟨.pass, cutAt message insertAt insertedLen, some (finishPendingHttpPropagation event false)⟩
  else ⟨.drop, message, some (finishPendingHttpPropagation event false)⟩

/-- The loop of `http_message_matches_capture`. -/
def matchesFrom (ctx : SkMsgContext) (captured : Bytes) (len : Nat) : Nat → Nat → Bool
  | 0, _ => true
  | fuel + 1, index =>
    if index ≥ len then true
    else if ctx.window.data + index + 1 > ctx.window.dataEnd then false
    else if ctx.message[index]? ≠ captured[index]? then false
    else matchesFrom ctx captured len fuel (index + 1)

def httpMessageMatchesCapture (ctx : SkMsgContext) (event : RawHttpRequestEvent) (len : Nat) : Bool :=
  if len > httpRequestBytes then false else matchesFrom ctx event.request len httpRequestBytes 0

/-! ## Stores -/

abbrev Store := Call Bytes Unit Unit

/-- A store at an address of the window, whose first octet is the octet `insertAt` of the message. -/
def store (w : Window) (insertAt address : Nat) (data : Bytes) : Store :=
  modify (writeAt · (insertAt + (address - w.data)) data)

def copyTracestateChunk (w : Window) (insertAt target : Nat) (tracestate : Bytes) (tracestateLen offset : Nat) :
    Store :=
  if tracestateLen ≥ offset + 16 then
    if target + offset + 16 > w.dataEnd then throw ()
    else store w insertAt (target + offset) ((tracestate.drop offset).take 16)
  else pure ()

def copyTracestateTailByte (w : Window) (insertAt target : Nat) (tracestate : Bytes) (tailStart tailLen offset : Nat) :
    Store :=
  if tailLen > offset then
    if target + (tailStart + offset) + 1 > w.dataEnd then throw ()
    else store w insertAt (target + (tailStart + offset)) ((tracestate.drop (tailStart + offset)).take 1)
  else pure ()

def writeTracestate (w : Window) (insertAt traceparentEnd : Nat) (tracestate : Bytes) (tracestateLen : Nat) : Store :=
  if traceparentEnd + tracestateHeaderPrefix.length > w.dataEnd then throw ()
  else do
    store w insertAt traceparentEnd tracestateHeaderPrefix
    let target := traceparentEnd + tracestateHeaderPrefix.length
    (List.range' 0 32).forM fun k => copyTracestateChunk w insertAt target tracestate tracestateLen (16 * k)
    let tailLen := tracestateLen &&& 15
    let tailStart := tracestateLen - tailLen
    (List.range' 0 15).forM fun k => copyTracestateTailByte w insertAt target tracestate tailStart tailLen k
    if target + tracestateLen + crlf.length > w.dataEnd then throw ()
    else store w insertAt (target + tracestateLen) crlf

/-- The stores between the exposing of the room and the end. -/
def writeHeaders (w : Window) (insertAt insertedLen : Nat) (header tracestate : Bytes) (tracestateLen : Nat) : Store :=
  match checkedAdd w.data insertedLen, checkedAdd w.data header.length with
  | some insertedEnd, some traceparentEnd =>
    if insertedEnd > w.dataEnd ∨ traceparentEnd > w.dataEnd then throw ()
    else do
      store w insertAt w.data header
      if tracestateLen > 0 then writeTracestate w insertAt traceparentEnd tracestate tracestateLen else pure ()
  | _, _ => throw ()

/-! ## The program -/

def insertedLen (p : RawHttpPropagationContext) : Nat :=
  (formatTraceparentHeader p.context).length +
    if p.tracestateLen = 0 then 0 else tracestateHeaderPrefix.length + p.tracestateLen + crlf.length

/-- What follows `push_data`: the window and the stores. -/
def fillRoom (event : RawHttpRequestEvent) (helpers : Helpers) (pushed : Bytes) : SkMsgResult :=
  let p := event.propagation
  match checkedAdd p.insertAt (insertedLen p) with
  | none => rollbackHttpPropagation pushed event helpers.popData p.insertAt (insertedLen p)
  | some _ =>
    match helpers.pullData with
    | none => rollbackHttpPropagation pushed event helpers.popData p.insertAt (insertedLen p)
    | some w =>
      match writeHeaders w p.insertAt (insertedLen p) (formatTraceparentHeader p.context) p.tracestate p.tracestateLen
          pushed with
      | (.ok _, written) => ⟨.pass, written, some (finishPendingHttpPropagation event true)⟩
      | (.error _, written) => rollbackHttpPropagation written event helpers.popData p.insertAt (insertedLen p)

/-- What follows the checks. -/
def injectHeaders (message : Bytes) (event : RawHttpRequestEvent) (helpers : Helpers) : SkMsgResult :=
  match helpers.pushData with
  | none => bypassMessage message event
  | some room =>
    fillRoom event helpers
      (openAt message event.propagation.insertAt ((List.range (insertedLen event.propagation)).map room))

def trySkMsgHttpContextPropagation (enabled : Bool) (pending : Option RawHttpRequestEvent) (now ttl : Nat)
    (ctx : SkMsgContext) (helpers : Helpers) : SkMsgResult :=
  if !enabled then ⟨.pass, ctx.message, none⟩
  else
    match pending with
    | none => ⟨.pass, ctx.message, none⟩
    | some event =>
      let size := ctx.message.length
      let pendingLen := event.requestLen
      if !contextIsFresh event.propagation.startedAtNanos now ttl then bypassMessage ctx.message event
      else if size = 0 ∨ size ≠ event.requestTotalLen ∨ pendingLen > httpRequestBytes ∨
          (checkedAdd ctx.window.data pendingLen).all (· > ctx.window.dataEnd) then bypassMessage ctx.message event
      else if !httpMessageMatchesCapture ctx event pendingLen then bypassMessage ctx.message event
      else if event.propagation.insertAt > size then bypassMessage ctx.message event
      else if event.propagation.tracestateLen > maxTracestateBytes then bypassMessage ctx.message event
      else injectHeaders ctx.message event helpers

end ENavigator.Propagation
