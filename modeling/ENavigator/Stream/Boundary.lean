import ENavigator.Stream.Lines

/-!
# The frame boundary of every protocol

`frameBoundary` dispatches on the protocol and the direction. An HTTP/1 response may also be the
answer that switches the connection to WebSocket; that pair is the only one whose verdict on a
complete frame depends on more than the frame's length.

* `settles_frameBoundary` : on every other pair a verdict is final, but for one on Redis requests;
* `frameBoundary_stable`, `frameBoundary_isSwitch` : a frame length, once named, stays, and no protocol switch is ever
  reported;
* `prefixStable_iff` : the verdicts that stay, over all pairs.
-/

namespace ENavigator.Stream

open List

/-! ## The WebSocket upgrade response -/

def maxWebSocketHandshakeValueBytes : Nat := 256

/-- The decoder of the `base64` crate. -/
class Base64 where
  decode : Bytes → Option Bytes

/-- A decoder that refuses every text, for runs that ask for none. -/
@[reducible] def Base64.refusing : Base64 := ⟨fun _ => none⟩

section

variable [Base64]

def validBase64Value (value : Bytes) (expectedLen : Nat) : Bool :=
  let value := trimAscii value
  if value.isEmpty || decide (value.length > maxWebSocketHandshakeValueBytes) then false
  else (Base64.decode value).any (·.length == expectedLen)

def validServerAccept (value : Bytes) : Bool := validBase64Value value 20

def tokenContains (value needle : Bytes) : Bool :=
  (value.splitOn 44).any fun token => eqIgnoreAsciiCase (trimAscii token) needle

structure Headers where
  firstLine : Bytes
  lines : Bytes

def Headers.value (headers : Headers) (name : Bytes) : Option Bytes :=
  (headers.lines.splitOn lf).findSome? fun line =>
    let line := stripSuffix [cr] line
    (findByte line 58).bind fun colon =>
      if eqIgnoreAsciiCase (line.take colon) name then some (trimAscii (line.drop (colon + 1))) else none

def parseHeaders (bytes : Bytes) (maxHeaderBytes : Nat) : Except WebSocketExtraction Headers :=
  match findDoubleCrlf (bytes.take (maxHeaderBytes + 1)) with
  | none => .error .headersTooLong
  | some stop =>
    if stop + 4 > maxHeaderBytes then .error .headersTooLong
    else
      let block := bytes.take stop
      let firstEnd := (findCrlf block).getD block.length
      .ok { firstLine := block.take firstEnd, lines := block.drop (firstEnd + 2) }

def isWebSocketUpgradeResponse (bytes : Bytes) (maxHeaderBytes : Nat) :
    Except WebSocketExtraction Bool :=
  match parseHeaders bytes maxHeaderBytes with
  | .error e => .error e
  | .ok headers =>
    let isSwitching := match asciiFields headers.firstLine with
      | version :: code :: _ => (text "HTTP/1.").isPrefixOf version && code == text "101"
      | _ => false
    let upgrade := (headers.value (text "upgrade")).any (tokenContains · (text "websocket"))
    let connection := (headers.value (text "connection")).any (tokenContains · (text "upgrade"))
    let accept := headers.value (text "sec-websocket-accept")
    let mentionsWebSocket := isSwitching || upgrade || accept.isSome
    if !mentionsWebSocket then .ok false
    else if (headers.value (text "sec-websocket-extensions")).isSome then .error .unsupportedExtensions
    else if !isSwitching || !upgrade || !connection || !accept.any validServerAccept then
      .error .malformedHandshake
    else .ok true

/-! ## Dispatch -/

def http1ResponseBoundary (bytes : Bytes) (maxFrameBytes : Nat) : FrameBoundary :=
  match http1Boundary bytes maxFrameBytes false with
  | .frame totalLen =>
    if totalLen ≤ bytes.length
        ∧ isWebSocketUpgradeResponse (bytes.take totalLen) maxFrameBytes = .ok true then
      .protocolSwitch totalLen .webSocket
    else .frame totalLen
  | boundary => boundary

def StreamDirection.webSocket : StreamDirection → WebSocketDirection
  | .request => .clientToServer
  | .response => .serverToClient

def frameBoundary (protocol : StreamProtocol) (direction : StreamDirection) (bytes : Bytes)
    (maxFrameBytes : Nat) : FrameBoundary :=
  if bytes.isEmpty then .needMoreBytes
  else match protocol, direction with
  | .http1, .request => http1Boundary bytes maxFrameBytes true
  | .http1, .response => http1ResponseBoundary bytes maxFrameBytes
  | .http2, .request => http2Boundary bytes maxFrameBytes true
  | .http2, .response => http2Boundary bytes maxFrameBytes false
  | .webSocket, direction => webSocketBoundary bytes direction.webSocket maxFrameBytes
  | .kafka, _ => kafkaBoundary bytes maxFrameBytes
  | .mongodb, _ => mongodbBoundary bytes maxFrameBytes
  | .mysql, _ => mysqlBoundary bytes maxFrameBytes
  | .mysqlCompressed, _ => mysqlCompressedBoundary bytes maxFrameBytes
  | .nats, .request => natsBoundary bytes maxFrameBytes
  | .nats, .response => natsResponseBoundary bytes maxFrameBytes
  | .postgresql, _ => postgresBoundary bytes maxFrameBytes
  | .redis, .request => redisBoundary bytes maxFrameBytes
  | .redis, .response => redisResponseBoundary bytes maxFrameBytes

/-! ## Every pair but the HTTP/1 response -/

/-- The pair whose boundary may switch the protocol. -/
def switches (protocol : StreamProtocol) (direction : StreamDirection) : Prop :=
  protocol = .http1 ∧ direction = .response

instance (protocol : StreamProtocol) (direction : StreamDirection) :
    Decidable (switches protocol direction) := inferInstanceAs (Decidable (_ ∧ _))

variable {protocol : StreamProtocol} {direction : StreamDirection} {max : Nat} {bytes : Bytes}

/-- **The verdict on a part of a stream is settled**, with the exception of `settles_redisBoundary`. -/
theorem settles_frameBoundary (hp : ¬ switches protocol direction) (max : Nat) (bytes x : Bytes) :
    Settles max (frameBoundary protocol direction bytes max) (frameBoundary protocol direction (bytes ++ x) max) ∨
      (protocol = .redis ∧ direction = .request ∧ frameBoundary protocol direction bytes max = .invalid ∧
        max < bytes.length ∧ isCountLine bytes = true) := by
  cases bytes with
  | nil => exact .inl (.wait _)
  | cons b rest =>
    have hne : b :: rest ≠ [] := cons_ne_nil b rest
    simp only [frameBoundary, isEmpty_cons, cons_append, Bool.false_eq_true, if_false]
    cases protocol with
    | http1 =>
      cases direction with
      | request => exact .inl (settles_http1Boundary max true (b :: rest) x)
      | response => exact absurd ⟨rfl, rfl⟩ hp
    | http2 => cases direction <;> exact .inl (settles_http2Boundary max _ x hne)
    | webSocket => exact .inl (settles_webSocketBoundary direction.webSocket max (b :: rest) x)
    | kafka => exact .inl (settles_kafkaBoundary max (b :: rest) x)
    | mongodb => exact .inl (settles_mongodbBoundary max (b :: rest) x)
    | mysql => exact .inl (settles_mysqlBoundary max (b :: rest) x)
    | mysqlCompressed => exact .inl (settles_mysqlCompressedBoundary max (b :: rest) x)
    | nats => cases direction <;> exact .inl (settles_natsLineBoundary _ _ max (b :: rest) x)
    | postgresql => exact .inl (settles_postgresBoundary max (b :: rest) x)
    | redis =>
      cases direction with
      | request => exact (settles_redisBoundary max x hne).imp_right fun h => ⟨rfl, rfl, h⟩
      | response => exact .inl (settles_redisResponseBoundary max (b :: rest) x)

/-- **A frame length, once named, is final.** -/
theorem frameBoundary_stable (hp : ¬ switches protocol direction) (max : Nat) :
    FrameStable (frameBoundary protocol direction · max) := by
  intro bytes x n h
  rcases settles_frameBoundary hp max bytes x with hs | ⟨-, -, hinvalid, -⟩
  · exact hs.frame_eq h
  · cases hinvalid.symm.trans h

/-- **Only an HTTP/1 response switches the protocol.** -/
theorem frameBoundary_isSwitch (hp : ¬ switches protocol direction) (bytes : Bytes) (max : Nat) :
    (frameBoundary protocol direction bytes max).isSwitch = false := by
  rcases settles_frameBoundary hp max bytes [] with hs | ⟨-, -, hinvalid, -⟩
  · exact hs.isSwitch
  · rw [hinvalid]
    rfl

/-! ## Every pair -/

/-- What more bytes may do to a verdict: nothing to a settled one, whose length is within the bound; a response of
HTTP/1 that was named before it was there may turn out to switch the protocol. -/
def PrefixStable (protocol : StreamProtocol) (direction : StreamDirection) (max : Nat) (bytes x : Bytes) : Prop :=
  match frameBoundary protocol direction bytes max with
  | .needMoreBytes => True
  | .invalid => frameBoundary protocol direction (bytes ++ x) max = .invalid
  | .frame n => (1 ≤ n ∧ n ≤ max) ∧ (frameBoundary protocol direction (bytes ++ x) max = .frame n ∨
      switches protocol direction ∧ n > bytes.length ∧
        ∃ q, frameBoundary protocol direction (bytes ++ x) max = .protocolSwitch n q)
  | .protocolSwitch n q =>
    (1 ≤ n ∧ n ≤ max) ∧ frameBoundary protocol direction (bytes ++ x) max = .protocolSwitch n q

theorem prefixStable_of_settles {x : Bytes}
    (h : Settles max (frameBoundary protocol direction bytes max) (frameBoundary protocol direction (bytes ++ x) max)) :
    PrefixStable protocol direction max bytes x := by
  unfold PrefixStable
  generalize frameBoundary protocol direction bytes max = v,
    frameBoundary protocol direction (bytes ++ x) max = w at h ⊢
  cases h with
  | wait => trivial
  | frame hpos hle => exact ⟨⟨hpos, hle⟩, .inl rfl⟩
  | invalid => rfl

theorem frameBoundary_http1Response (max : Nat) (hne : bytes ≠ []) :
    frameBoundary .http1 .response bytes max = http1ResponseBoundary bytes max :=
  if_neg (by rwa [List.isEmpty_iff])

theorem frameBoundary_redisRequest (max : Nat) (hne : bytes ≠ []) :
    frameBoundary .redis .request bytes max = redisBoundary bytes max :=
  if_neg (by rwa [List.isEmpty_iff])

theorem prefixStable_http1Response (max : Nat) (bytes x : Bytes) : PrefixStable .http1 .response max bytes x := by
  by_cases hne : bytes = []
  · rw [hne]
    trivial
  have hs := settles_http1Boundary max false bytes x
  unfold PrefixStable
  rw [frameBoundary_http1Response max hne, frameBoundary_http1Response max (append_ne_nil_of_left_ne_nil hne x)]
  unfold http1ResponseBoundary
  generalize http1Boundary bytes max false = v, http1Boundary (bytes ++ x) max false = w at hs ⊢
  cases hs with
  | wait => trivial
  | invalid => rfl
  | @frame n hpos hle =>
    dsimp only
    by_cases hin : n ≤ bytes.length
    · -- The verdict reads the message alone, and all of it is there.
      have hin' : n ≤ (bytes ++ x).length := by
        rw [length_append]
        omega
      simp only [hin, hin', true_and, take_append_of_le_length hin]
      by_cases hupgrade : isWebSocketUpgradeResponse (bytes.take n) max = .ok true
      · simp only [if_pos hupgrade]
        exact ⟨⟨hpos, hle⟩, trivial⟩
      · simp only [if_neg hupgrade]
        exact ⟨⟨hpos, hle⟩, .inl trivial⟩
    · rw [if_neg fun h => hin h.1]
      refine ⟨⟨hpos, hle⟩, ?_⟩
      split
      · exact .inr ⟨⟨rfl, rfl⟩, Nat.not_le.mp hin, _, rfl⟩
      · exact .inl rfl

omit [Base64] in
/-- A count line longer than the limit: refused by itself, and waited for as soon as an item begins. -/
theorem redisBoundary_countLine (h : isCountLine bytes = true) (hlong : max < bytes.length) :
    redisBoundary bytes max = .invalid ∧ redisBoundary (bytes ++ [36]) max = .needMoreBytes := by
  obtain ⟨hhead, hline⟩ := Bool.and_eq_true_iff.mp h
  have hstar : ¬ bytes.head? ≠ some 42 := Decidable.not_not.mpr (eq_of_beq hhead)
  have hne : bytes ≠ [] := length_pos_iff.mp (Nat.zero_lt_of_lt hlong)
  have hsettled := lines_readDecimalLine [36] (length_pos_iff.mpr hne)
  unfold redisBoundary
  rw [List.head?_append_of_ne_nil _ hne, if_neg hstar, if_neg hstar]
  generalize readDecimalLine bytes _ = r, readDecimalLine (bytes ++ [36]) _ = r' at hsettled hline ⊢
  cases hsettled with
  | wait _ => cases hline
  | invalid => cases hline
  | @value itemCount cursor hlo hin =>
    obtain ⟨hend, hcount⟩ := Bool.and_eq_true_iff.mp hline
    rw [eq_of_beq hend]
    have hcount : ¬ (itemCount = 0 || decide (itemCount > maxRedisBoundaryItems)) = true := by simpa using hcount
    obtain ⟨items, rfl⟩ : ∃ k, itemCount = k + 1 := ⟨itemCount - 1, by simp at hcount; omega⟩
    dsimp only
    rw [if_neg hcount, if_neg hcount, redisItems, redisItems, List.getElem?_eq_none (Nat.le_refl _),
      List.getElem?_concat_length]
    refine ⟨if_pos hlong, ?_⟩
    simp [readDecimalLine, readDecimalFrom]

theorem prefixStable_of_settled
    (h : ¬ (protocol = .redis ∧ direction = .request ∧ max < bytes.length ∧ isCountLine bytes = true)) (x : Bytes) :
    PrefixStable protocol direction max bytes x := by
  by_cases hp : switches protocol direction
  · obtain ⟨rfl, rfl⟩ := hp
    exact prefixStable_http1Response max bytes x
  · rcases settles_frameBoundary hp max bytes x with hs | ⟨hredis, hrequest, -, hlong, hline⟩
    · exact prefixStable_of_settles hs
    · exact absurd ⟨hredis, hrequest, hlong, hline⟩ h

/-- **A verdict is final exactly where it is not the one on an overlong count line of Redis.** -/
theorem prefixStable_iff (protocol : StreamProtocol) (direction : StreamDirection) (max : Nat) (bytes : Bytes) :
    (∀ x, PrefixStable protocol direction max bytes x) ↔
      ¬ (protocol = .redis ∧ direction = .request ∧ max < bytes.length ∧ isCountLine bytes = true) := by
  constructor
  · rintro h ⟨rfl, rfl, hlong, hline⟩
    have hne : bytes ≠ [] := length_pos_iff.mp (Nat.zero_lt_of_lt hlong)
    obtain ⟨hpart, hwhole⟩ := redisBoundary_countLine hline hlong
    have hbad := h [36]
    unfold PrefixStable at hbad
    rw [frameBoundary_redisRequest max hne, hpart,
      frameBoundary_redisRequest max (append_ne_nil_of_left_ne_nil hne _), hwhole] at hbad
    cases hbad
  · exact fun h x => prefixStable_of_settled h x

end

attribute [local instance] Base64.refusing

theorem not_prefixStable_countLine : ¬ PrefixStable .redis .request 3 (text "*1\r\n") (text "$") := by
  have hpart : frameBoundary .redis .request (text "*1\r\n") 3 = .invalid := by decide
  have hwhole : frameBoundary .redis .request (text "*1\r\n" ++ text "$") 3 = .needMoreBytes := by decide
  unfold PrefixStable
  rw [hpart, hwhole]
  decide

end ENavigator.Stream
