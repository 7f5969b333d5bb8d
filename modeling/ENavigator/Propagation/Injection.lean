import ENavigator.Propagation.Message
import ENavigator.Propagation.Traceparent

/-!
# Injecting a `traceparent` line

The kernel side writes the formatted line at the place the plan names. On a request this is a header
line in front of the others (`Http1Request.bytes_insertHeader`): an outgoing plan then refuses the
message (`scanLine_outgoing`), an inbound one reads over the line (`scanLine_inbound`), and the reader
stops at it.
-/

namespace ENavigator.Propagation

open List

/-- The message the kernel side sends. -/
def inject (message : Bytes) (insertAt : Nat) (c : TraceContext) : Bytes :=
  message.take insertAt ++ formatTraceparentHeader c ++ message.drop insertAt

theorem isHeaderLine_traceparentLine (c : TraceContext) : IsHeaderLine (traceparentLine c) :=
  ⟨isLine_of_cr_not_mem (cr_not_mem_traceparentLine c), cons_ne_nil _ _⟩

namespace Http1Request

def insertHeader (r : Http1Request) (line : Bytes) (h : IsHeaderLine line) : Http1Request where
  requestLine := r.requestLine
  headerLines := line :: r.headerLines
  body := r.body
  requestLine_isLine := r.requestLine_isLine
  headerLines_areLines := forall_mem_cons.mpr ⟨h, r.headerLines_areLines⟩

theorem bytes_insertHeader (r : Http1Request) (c : TraceContext) :
    (r.insertHeader (traceparentLine c) (isHeaderLine_traceparentLine c)).bytes =
      inject r.bytes (r.requestLine.length + 2) c := by
  have htake : r.bytes.take (r.requestLine.length + 2) = r.requestLine ++ crlf := by
    rw [bytes, ← append_assoc]
    exact take_left' (by rw [length_append, length_crlf])
  rw [inject, htake, r.drop_bytes, formatTraceparentHeader_eq]
  simp only [bytes, insertHeader, headerBlock, append_assoc]

theorem plan_eq_inject {r : Http1Request} {inbound : Bool} {insertAt : Nat}
    (h : r.plan inbound = .inject insertAt) :
    validateRequestLine r.requestLine = .ok () ∧ insertAt = r.requestLine.length + 2 := by
  rw [plan] at h
  split at h
  · cases h
  next hvalid =>
  split at h
  · cases h
  split at h
  · cases h
  split at h
  · cases h
  split at h
  · cases h
  exact ⟨hvalid, (PropagationDecision.inject.inj h).symm⟩

end Http1Request

theorem scanLine_outgoing (c : TraceContext) (scan : HeaderScan) :
    scanLine false scan (traceparentLine c) = .error .existingTraceparent := by
  rw [scanLine, findByte_traceparentLine]
  dsimp only
  rw [take_traceparentLine, trimOws_traceparentLine, validFieldValue_traceparentValue]
  rfl

theorem scanLine_inbound (c : TraceContext) (scan : HeaderScan) :
    scanLine true scan (traceparentLine c) = .ok scan := by
  rw [scanLine, findByte_traceparentLine]
  dsimp only
  rw [take_traceparentLine, trimOws_traceparentLine, validFieldValue_traceparentValue]
  rfl

/-- **Injection is correct and keeps the framing.** When the plan names a place for the line and the
message has room for it, then behind the line's insertion
* the reader finds the injected context;
* the request line, the other header lines and the body are those of the message;
* the plan refuses a second injection;
* the message may own inbound work exactly when it could before. -/
theorem inject_spec (message : Bytes) (insertAt : Nat) (c : TraceContext)
    (hplan : planHttp1Propagation message = .inject insertAt)
    (hroom : message.length + traceparentHeaderBytes ≤ maxPropagationHeaderBytes)
    (hnew : TraceContext.new c.traceId c.spanId c.traceFlags c.traceId_length c.spanId_length = some c) :
    extractTraceparent (inject message insertAt c) = some c ∧
    (∃ r r' : Http1Request, r.bytes = message ∧ r'.bytes = inject message insertAt c ∧
      r'.requestLine = r.requestLine ∧ r'.headerLines = traceparentLine c :: r.headerLines ∧
      r'.body = r.body) ∧
    planHttp1Propagation (inject message insertAt c) = .bypass .existingTraceparent ∧
    validInboundHttp1Request (inject message insertAt c) = validInboundHttp1Request message := by
  obtain ⟨r, rfl, hlen⟩ : ∃ r : Http1Request, r.bytes = message ∧
      r.bytes.length ≤ maxPropagationHeaderBytes := by
    cases hb : http1Boundaries message with
    | error reason =>
      rw [planHttp1Propagation, planHttp1PrefixPropagation, planHttp1Message,
        if_neg (Nat.lt_irrefl _), hb] at hplan
      cases hplan
    | ok p =>
      obtain ⟨hlen, r, rfl⟩ := exists_of_http1Boundaries hb
      exact ⟨r, rfl, hlen⟩
  rw [planHttp1Propagation, planHttp1PrefixPropagation, planHttp1Message_bytes r hlen] at hplan
  obtain ⟨hvalid, rfl⟩ := Http1Request.plan_eq_inject hplan
  have hline := isHeaderLine_traceparentLine c
  obtain ⟨r', hr'⟩ : ∃ r', r' = r.insertHeader (traceparentLine c) hline := ⟨_, rfl⟩
  have hbytes : r'.bytes = inject r.bytes (r.requestLine.length + 2) c := hr' ▸ r.bytes_insertHeader c
  have hlen' : r'.bytes.length ≤ maxPropagationHeaderBytes := by
    rw [hbytes, inject, append_assoc, length_append, length_append,
      length_formatTraceparentHeader, length_take, length_drop]
    rw [traceparentHeaderBytes] at hroom
    omega
  rw [← hbytes]
  refine ⟨?_, ⟨r, r', rfl, rfl, by rw [hr']; rfl, by rw [hr']; rfl, by rw [hr']; rfl⟩, ?_, ?_⟩
  · rw [extractTraceparent_bytes r' hlen' (by rw [hr']; exact hvalid), hr']
    show firstTraceparent (traceparentLine c :: r.headerLines) = some c
    rw [firstTraceparent, findByte_traceparentLine, Option.bind_some, take_traceparentLine,
      trimOws_traceparentLine, if_pos (by decide), parseTraceparentValue_value, hnew]
  · rw [planHttp1Propagation, planHttp1PrefixPropagation, planHttp1Message_bytes r' hlen', hr',
      Http1Request.plan]
    rw [show validateRequestLine (r.insertHeader (traceparentLine c) hline).requestLine = .ok () from hvalid]
    simp only [Http1Request.insertHeader, foldlM_cons, scanLine_outgoing]
    rfl
  · have hscan : r'.headerLines.foldlM (scanLine true) {} = r.headerLines.foldlM (scanLine true) {} := by
      rw [hr']
      simp only [Http1Request.insertHeader, foldlM_cons, scanLine_inbound]
      rfl
    have hsame : r'.plan true = r.plan true := by
      rw [Http1Request.plan, Http1Request.plan, hscan, hr']
      rfl
    rw [validInboundHttp1Request, validInboundHttp1Request, planHttp1Message_bytes r' hlen',
      planHttp1Message_bytes r hlen, hsame]

/-- A request with a declared body. -/
theorem inject_spec_get :
    planHttp1Propagation (text "GET /a HTTP/1.1\r\nHost: x\r\nContent-Length: 3\r\n\r\nabc") = .inject 17 ∧
    extractTraceparent (inject (text "GET /a HTTP/1.1\r\nHost: x\r\nContent-Length: 3\r\n\r\nabc") 17
      ⟨List.replicate 16 0x11, List.replicate 8 0x22, 1, rfl, rfl⟩) =
        some ⟨List.replicate 16 0x11, List.replicate 8 0x22, 1, rfl, rfl⟩ :=
  have hplan : planHttp1Propagation (text "GET /a HTTP/1.1\r\nHost: x\r\nContent-Length: 3\r\n\r\nabc") =
      .inject 17 := by decide +kernel
  ⟨hplan, (inject_spec _ 17 ⟨List.replicate 16 0x11, List.replicate 8 0x22, 1, rfl, rfl⟩ hplan
    (by decide) (by decide)).1⟩

end ENavigator.Propagation
