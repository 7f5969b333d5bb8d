import ENavigator.Propagation.Http1

/-!
# Requests as lines

The scanners of the propagation contracts walk a byte string from line end to line end. Here a request
is what they read: a request line, header lines and a body (`Http1Request`), whose byte string is
written out by `Http1Request.bytes`.

* `exists_of_http1Boundaries`: every byte string with boundaries is the byte string of a request, and
  `Http1Request.bytes_injective`: of one only;
* `planHttp1Message_bytes`, `extractTraceparent_bytes`: on such a byte string the plan and the reader
  are folds over the header lines.
-/

namespace ENavigator.Propagation

open List

/-! ## Lines -/

/-- A line as the scanners cut it: the line end behind it is the first one. -/
def IsLine (line : Bytes) : Prop := findCrlf (line ++ crlf) = some line.length

/-- A line of the header block, where the empty line is the end of the block. -/
def IsHeaderLine (line : Bytes) : Prop := IsLine line ∧ line ≠ []

variable {line x y : Bytes} {lines : List Bytes} {fuel : Nat}

theorem IsLine.findCrlf_eq (h : IsLine line) (rest : Bytes) : findCrlf (line ++ (crlf ++ rest)) = some line.length := by
  rw [← append_assoc]
  exact findCrlf_append rest h

theorem isLine_of_cr_not_mem (h : cr ∉ line) : IsLine line := by
  have hline := findCrlf_line h []
  rwa [append_nil] at hline

theorem isLine_take {bytes : Bytes} {i : Nat} (h : findCrlf bytes = some i) : IsLine (bytes.take i) := by
  have hle := findCrlf_add_two_le h
  have htake : findCrlf (bytes.take (i + crlf.length)) = some i := findWindow_take (by decide) h
  have hcut : bytes.take (i + crlf.length) = bytes.take i ++ crlf := by
    conv_lhs => rw [findCrlf_cut h]
    rw [← append_assoc]
    exact take_left' (by rw [length_append, length_take]; omega)
  rw [hcut] at htake
  rw [IsLine, length_take, Nat.min_eq_left (by omega)]
  exact htake

/-- Two byte strings cut at their first line ends agree part by part. -/
theorem IsLine.cut_inj {a b : Bytes} (ha : IsLine a) (hb : IsLine b) (h : a ++ (crlf ++ x) = b ++ (crlf ++ y)) :
    a = b ∧ x = y := by
  have hlen : a.length = b.length := by
    have := ha.findCrlf_eq x
    rw [h, hb.findCrlf_eq y] at this
    exact (Option.some.inj this).symm
  obtain ⟨hab, hrest⟩ := append_inj h hlen
  exact ⟨hab, append_cancel_left hrest⟩

/-! ## The header block -/

/-- The header lines with their line ends and the blank line. -/
def headerBlock : List Bytes → Bytes
  | [] => crlf
  | line :: lines => line ++ (crlf ++ headerBlock lines)

theorem length_lt_length_headerBlock (lines : List Bytes) :
    lines.length < (headerBlock lines).length := by
  induction lines with
  | nil => simp [headerBlock, crlf]
  | cons line lines ih =>
    simp only [headerBlock, length_append, length_cons, length_crlf]
    omega

/-- Header lines that a walk of `fuel` steps gets over. -/
inductive Walked : Nat → List Bytes → Prop
  | nil {fuel : Nat} : Walked (fuel + 1) []
  | cons {fuel : Nat} {line : Bytes} {lines : List Bytes} (hline : IsHeaderLine line) (h : Walked fuel lines) :
      Walked (fuel + 1) (line :: lines)

theorem walked_of_length_lt (h : ∀ l ∈ lines, IsHeaderLine l) (hfuel : lines.length < fuel) : Walked fuel lines := by
  induction lines generalizing fuel with
  | nil =>
    obtain ⟨fuel, rfl⟩ := Nat.exists_eq_succ_of_ne_zero (Nat.ne_of_gt hfuel)
    exact .nil
  | cons line lines ih =>
    obtain ⟨fuel, rfl⟩ := Nat.exists_eq_succ_of_ne_zero (Nat.ne_of_gt (Nat.zero_lt_of_lt hfuel))
    exact .cons (h line mem_cons_self) (ih (fun l hl => h l (mem_cons_of_mem _ hl)) (by simpa using hfuel))

theorem headerBlock_inj {lines' : List Bytes} (h : ∀ l ∈ lines, IsHeaderLine l) (h' : ∀ l ∈ lines', IsHeaderLine l)
    (heq : headerBlock lines ++ x = headerBlock lines' ++ y) : lines = lines' ∧ x = y := by
  have hnil : IsLine [] := rfl
  induction lines generalizing lines' with
  | nil =>
    cases lines' with
    | nil => exact ⟨rfl, append_cancel_left heq⟩
    | cons line' lines' =>
      have hl' := h' line' mem_cons_self
      rw [headerBlock, headerBlock, append_assoc, append_assoc] at heq
      exact absurd (hnil.cut_inj hl'.1 heq).1.symm hl'.2
  | cons line lines ih =>
    have hl := h line mem_cons_self
    cases lines' with
    | nil =>
      rw [headerBlock, headerBlock, append_assoc, append_assoc] at heq
      exact absurd (hl.1.cut_inj hnil heq).1 hl.2
    | cons line' lines' =>
      rw [headerBlock, headerBlock, append_assoc, append_assoc, append_assoc,
        append_assoc] at heq
      obtain ⟨rfl, hrest⟩ := hl.1.cut_inj (h' line' mem_cons_self).1 heq
      obtain ⟨rfl, hxy⟩ := ih (fun l hl => h l (mem_cons_of_mem _ hl))
        (fun l hl => h' l (mem_cons_of_mem _ hl)) hrest
      exact ⟨rfl, hxy⟩

theorem headerEndFrom_headerBlock (h : Walked fuel lines) (body : Bytes) (index : Nat) :
    headerEndFrom fuel index (headerBlock lines ++ body) = some (index + (headerBlock lines).length) := by
  induction h generalizing index with
  | nil => rfl
  | cons hline _ ih =>
    rw [headerBlock, append_assoc, append_assoc, headerEndFrom, hline.1.findCrlf_eq]
    dsimp only
    rw [if_neg (by simpa using hline.2), ← drop_drop, drop_left, drop_left' length_crlf, ih]
    simp only [length_append, Option.some.injEq, length_crlf]
    omega

theorem exists_of_headerEndFrom {index : Nat} {bytes : Bytes} {headerEnd : Nat}
    (h : headerEndFrom fuel index bytes = some headerEnd) :
    ∃ lines body, (∀ l ∈ lines, IsHeaderLine l) ∧ bytes = headerBlock lines ++ body := by
  induction fuel generalizing index bytes with
  | zero => exact absurd h (by simp [headerEndFrom])
  | succ fuel ih =>
    rw [headerEndFrom] at h
    cases hcr : findCrlf bytes with
    | none => simp [hcr] at h
    | some i =>
      rw [hcr] at h
      have hcut := findCrlf_cut hcr
      by_cases hi : i = 0
      · subst hi
        exact ⟨[], bytes.drop 2, by simp, hcut⟩
      · dsimp only at h
        rw [if_neg hi] at h
        obtain ⟨lines, body, hlines, hrest⟩ := ih h
        have hne : bytes.take i ≠ [] := by
          have := findCrlf_add_two_le hcr
          intro hnil
          have hlen := congrArg List.length hnil
          rw [length_take, length_nil] at hlen
          omega
        refine ⟨bytes.take i :: lines, body, forall_mem_cons.mpr ⟨⟨isLine_take hcr, hne⟩, hlines⟩, ?_⟩
        rw [headerBlock, append_assoc, append_assoc, ← hrest]
        exact hcut

/-! ## Requests -/

/-- A request cut at its line ends. -/
structure Http1Request where
  requestLine : Bytes
  headerLines : List Bytes
  body : Bytes
  requestLine_isLine : IsLine requestLine
  headerLines_areLines : ∀ l ∈ headerLines, IsHeaderLine l

namespace Http1Request

def bytes (r : Http1Request) : Bytes :=
  r.requestLine ++ (crlf ++ (headerBlock r.headerLines ++ r.body))

def headerEnd (r : Http1Request) : Nat := r.requestLine.length + 2 + (headerBlock r.headerLines).length

theorem bytes_injective : Function.Injective bytes := by
  rintro ⟨requestLine, headerLines, body, hr, hl⟩ ⟨requestLine', headerLines', body', hr', hl'⟩ h
  obtain ⟨rfl, hrest⟩ := hr.cut_inj hr' h
  obtain ⟨rfl, rfl⟩ := headerBlock_inj hl hl' hrest
  rfl

variable (r : Http1Request)

theorem length_bytes : r.bytes.length = r.headerEnd + r.body.length := by
  simp only [bytes, headerEnd, length_append, length_crlf]
  omega

theorem take_bytes : r.bytes.take r.requestLine.length = r.requestLine :=
  take_left

theorem drop_bytes :
    r.bytes.drop (r.requestLine.length + 2) = headerBlock r.headerLines ++ r.body := by
  rw [bytes, ← drop_drop, drop_left, drop_left' length_crlf]

theorem drop_headerEnd : r.bytes.drop r.headerEnd = r.body := by
  rw [headerEnd, ← drop_drop, drop_bytes, drop_left]

theorem headerTail_bytes :
    headerTail r.bytes r.requestLine.length r.headerEnd = headerBlock r.headerLines := by
  rw [headerTail, drop_bytes, headerEnd, Nat.add_sub_cancel_left, take_left]

theorem http1Boundaries_bytes (h : r.bytes.length ≤ maxPropagationHeaderBytes) :
    http1Boundaries r.bytes = .ok (r.requestLine.length, r.headerEnd) := by
  have hblock := length_lt_length_headerBlock r.headerLines
  have hlen := r.length_bytes
  rw [headerEnd] at hlen
  have hne : r.bytes.isEmpty = false := by
    rw [isEmpty_eq_false_iff, ← length_pos_iff]
    omega
  rw [http1Boundaries, hne, if_neg (by simp), if_neg (by omega)]
  have hcr : findCrlf r.bytes = some r.requestLine.length := r.requestLine_isLine.findCrlf_eq _
  rw [hcr]
  dsimp only
  rw [drop_bytes, headerEndFrom_headerBlock (walked_of_length_lt r.headerLines_areLines (by omega))]
  rfl

end Http1Request

/-- A byte string with boundaries is a request, of at most the window's length. -/
theorem exists_of_http1Boundaries {message : Bytes} {p : Nat × Nat} (h : http1Boundaries message = .ok p) :
    message.length ≤ maxPropagationHeaderBytes ∧ ∃ r : Http1Request, r.bytes = message := by
  rw [http1Boundaries] at h
  split at h
  · cases h
  split at h
  · cases h
  next hlen =>
  split at h
  · cases h
  next requestLineEnd hcr =>
  split at h
  · cases h
  next headerEnd hend =>
  obtain ⟨lines, body, hlines, hrest⟩ := exists_of_headerEndFrom hend
  refine ⟨by omega, ⟨message.take requestLineEnd, lines, body, isLine_take hcr, hlines⟩, ?_⟩
  rw [Http1Request.bytes, ← hrest]
  exact (findCrlf_cut hcr).symm

/-! ## The scanners as folds over the header lines -/

theorem scanLines_headerBlock (h : Walked fuel lines) (inbound : Bool) (scan : HeaderScan) :
    scanLines inbound fuel scan (headerBlock lines) = lines.foldlM (scanLine inbound) scan := by
  induction h generalizing scan with
  | nil => rfl
  | @cons fuel line lines hline _ ih =>
    rw [headerBlock, scanLines, if_neg (by simp only [length_append, length_crlf]; omega), hline.1.findCrlf_eq]
    dsimp only
    rw [if_neg (by simpa using hline.2), take_left, ← drop_drop, drop_left,
      drop_left' length_crlf, foldlM_cons]
    cases scanLine inbound scan line with
    | error reason => rfl
    | ok scan => exact ih scan

/-- The context of the first `traceparent` line, when every line before it has a colon. -/
def firstTraceparent : List Bytes → Option TraceContext
  | [] => none
  | line :: lines =>
    (findByte line 58).bind fun colon =>
      if eqIgnoreAsciiCase (line.take colon) (text "traceparent") then
        parseTraceparentValue (trimOws (line.drop (colon + 1)))
      else firstTraceparent lines

theorem extractFrom_headerBlock (h : Walked fuel lines) :
    extractFrom fuel (headerBlock lines) = firstTraceparent lines := by
  induction h with
  | nil => rfl
  | cons hline _ ih =>
    rw [headerBlock, extractFrom, if_neg (by simp only [length_append, length_crlf]; omega),
      hline.1.findCrlf_eq, Option.bind_some, if_neg (by simpa using hline.2), take_left,
      ← drop_drop, drop_left, drop_left' length_crlf, ih]
    rfl

/-- The plan on a request, without the walk over its bytes. -/
def Http1Request.plan (r : Http1Request) (inbound : Bool) : PropagationDecision :=
  match validateRequestLine r.requestLine with
  | .error reason => .bypass reason
  | .ok () =>
    match r.headerLines.foldlM (scanLine inbound) {} with
    | .error reason => .bypass reason
    | .ok scan =>
      if scan.transferEncodingChunked && scan.contentLength.isSome then .bypass .ambiguousMessageFraming
      else match planBody scan r.body r.body.length inbound with
      | .error reason => .bypass reason
      | .ok () =>
        if !inbound && scan.sawTracestate then .bypass .orphanTracestate
        else .inject (r.requestLine.length + 2)

/-- **The plan is a fold over the header lines.** -/
theorem planHttp1Message_bytes (r : Http1Request) (h : r.bytes.length ≤ maxPropagationHeaderBytes)
    (inbound : Bool) : planHttp1Message r.bytes r.bytes.length inbound = r.plan inbound := by
  have hwalked := walked_of_length_lt r.headerLines_areLines
    (Nat.lt_succ_of_lt (length_lt_length_headerBlock r.headerLines))
  have hrest : r.bytes.length - r.headerEnd = r.body.length := by
    rw [r.length_bytes, Nat.add_sub_cancel_left]
  rw [planHttp1Message, if_neg (Nat.lt_irrefl _), r.http1Boundaries_bytes h]
  dsimp only
  rw [r.take_bytes, r.headerTail_bytes, r.drop_headerEnd, hrest,
    scanLines_headerBlock hwalked]
  rfl

/-- **The reader takes the first `traceparent` line.** -/
theorem extractTraceparent_bytes (r : Http1Request) (h : r.bytes.length ≤ maxPropagationHeaderBytes)
    (hline : validateRequestLine r.requestLine = .ok ()) :
    extractTraceparent r.bytes = firstTraceparent r.headerLines := by
  have hwalked := walked_of_length_lt r.headerLines_areLines
    (Nat.lt_succ_of_lt (length_lt_length_headerBlock r.headerLines))
  rw [extractTraceparent, r.http1Boundaries_bytes h]
  dsimp only
  rw [r.take_bytes, hline]
  rw [r.headerTail_bytes, extractFrom_headerBlock hwalked]

/-- **A plan is made for a message that is one request in one way only**, and it is the plan on that request. -/
theorem planHttp1Message_eq_inject_iff (message : Bytes) (inbound : Bool) (insertAt : Nat) :
    planHttp1Message message message.length inbound = .inject insertAt ↔
      message.length ≤ maxPropagationHeaderBytes ∧
        ∃! r : Http1Request, r.bytes = message ∧ r.plan inbound = .inject insertAt := by
  constructor
  · intro h
    cases hb : http1Boundaries message with
    | error reason =>
      rw [planHttp1Message, if_neg (Nat.lt_irrefl _), hb] at h
      cases h
    | ok p =>
      obtain ⟨hlen, r, rfl⟩ := exists_of_http1Boundaries hb
      rw [planHttp1Message_bytes r hlen] at h
      exact ⟨hlen, r, ⟨rfl, h⟩, fun r' hr' => Http1Request.bytes_injective hr'.1⟩
  · rintro ⟨hlen, r, ⟨rfl, h⟩, -⟩
    rw [planHttp1Message_bytes r hlen]
    exact h

end ENavigator.Propagation
