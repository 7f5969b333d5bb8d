import Mathlib.Data.List.SplitBy
import Mathlib.Order.MinMax
import ENavigator.Host.Parsers

/-!
# CPU times

What the readers of `/proc` report, against the exact times.

* `Spaced`, `Numeral` : the words of a line and the numbers they stand for;
* `AggregateCpu contents t` : the last `cpu ` line of the text gives the ticks `t`; `ProcessCpu` for a process;
* `ticksToNanos_eq` : the product with 10⁹ saturates before the division, so no report passes `(2 ^ 64 - 1) / hz`;
* `exact_iff_below_ceiling` : a report is the exact time if and only if the exact time is not above that.
-/

namespace ENavigator.Host

open List

open Http1 (splitWhitespace chars isWhitespace)
open Http2 (parseUnsigned)
open Metrics.Resource (NodeCpuObservation ProcessResourceObservation)

/-! ## Words -/

def isBlank (b : UInt8) : Bool := b == 32 || b == 9
def isGraphic (b : UInt8) : Bool := 33 ≤ b && b ≤ 126

/-- Words, each behind its blanks, and blanks at the end. -/
def spaced (fields : List (Bytes × Bytes)) (trailing : Bytes) : Bytes :=
  fields.flatMap (fun field => field.1 ++ field.2) ++ trailing

def Spaced (line : Bytes) (words : List Bytes) : Prop :=
  ∃ fields trailing, line = spaced fields trailing ∧ words = fields.map Prod.snd ∧
    (∀ field ∈ fields, field.1.all isBlank ∧ field.2 ≠ [] ∧ field.2.all isGraphic) ∧
    (∀ field ∈ fields.tail, field.1 ≠ []) ∧ trailing.all isBlank

theorem isBlank_spec (b : UInt8) : isBlank b → isWhitespace [b] = true ∧ isContinuation b = false := by
  revert b
  exact forall_byte (by decide +kernel)

theorem isGraphic_spec (b : UInt8) : isGraphic b → isWhitespace [b] = false ∧ isContinuation b = false := by
  revert b
  exact forall_byte (by decide +kernel)

variable {value rest contents : Bytes} {words : List Bytes}

theorem chars_ascii (h : ∀ b ∈ value, isContinuation b = false) : chars value = value.map fun b => [b] := by
  induction value with
  | nil => rfl
  | cons b value ih =>
    have htail : ∀ c ∈ value, isContinuation c = false := fun c hc => h c (mem_cons_of_mem _ hc)
    have hcut : chars ([b] ++ value) = chars [b] ++ chars value := by
      apply splitBy_append
      intro _ _ c hc
      exact htail c (mem_of_mem_head? hc)
    rw [singleton_append] at hcut
    rw [hcut, ih htail]
    rfl

theorem splitOnP_map {α β : Type} (f : α → β) (p : β → Bool) (l : List α) :
    (l.map f).splitOnP p = (l.splitOnP fun a => p (f a)).map (List.map f) := by
  induction l with
  | nil => rfl
  | cons a l ih =>
    rw [map_cons, splitOnP_cons_eq_if_modifyHead, splitOnP_cons_eq_if_modifyHead, ih]
    split
    · rfl
    · obtain ⟨w, ws, hws⟩ := exists_cons_of_ne_nil (splitOnP_ne_nil (fun a => p (f a)) l)
      rw [hws]
      rfl

/-- The words of a text of one-byte characters, cut byte by byte. -/
def asciiWords (value : Bytes) : List Bytes :=
  (value.splitOnP fun b => isWhitespace [b]).filter fun word => !word.isEmpty

theorem splitWhitespace_ascii (h : ∀ b ∈ value, isContinuation b = false) :
    splitWhitespace value = asciiWords value := by
  have hflat : ∀ word : Bytes, (word.map fun b => [b]).flatten = word := fun word => by
    exact flatMap_singleton' word
  rw [splitWhitespace, chars_ascii h, splitOnP_map, filter_map, map_map]
  have hid : (List.flatten ∘ List.map fun b : UInt8 => [b]) = id := funext hflat
  have hkeep : ((fun field : List Bytes => !field.isEmpty) ∘ List.map fun b : UInt8 => [b])
      = fun word => !word.isEmpty := by
    funext word
    cases word <;> rfl
  rw [hid, hkeep, map_id]
  rfl

theorem asciiWords_blanks {blanks : Bytes} (h : blanks.all isBlank) (rest : Bytes) :
    asciiWords (blanks ++ rest) = asciiWords rest := by
  induction blanks with
  | nil => rfl
  | cons b blanks ih =>
    rw [all_cons, Bool.and_eq_true] at h
    rw [← ih h.2, cons_append, asciiWords, splitOnP_cons_eq_if_modifyHead,
      if_pos (isBlank_spec b h.1).1]
    rfl

variable {word line : Bytes} {n hz : Nat}

theorem asciiWords_word (hne : word ≠ []) (hword : word.all isGraphic) (hends : ∀ b ∈ rest.head?, isBlank b) :
    asciiWords (word ++ rest) = word :: asciiWords rest := by
  have hnone : ∀ b ∈ word, isWhitespace [b] = false := fun b hb =>
    (isGraphic_spec b (all_eq_true.mp hword b hb)).1
  have hkeep : ∀ more : List Bytes,
      (word :: more).filter (fun word => !word.isEmpty) = word :: more.filter fun word => !word.isEmpty := by
    intro more
    apply filter_cons_of_pos
    cases word with
    | nil => exact absurd rfl hne
    | cons => rfl
  rcases rest with _ | ⟨b, rest⟩
  · rw [append_nil, asciiWords, splitOnP_eq_singleton hnone, hkeep]
    rfl
  · have hb := hends b rfl
    have hskip : asciiWords (b :: rest) = asciiWords rest :=
      @asciiWords_blanks [b] (by simp [hb]) rest
    rw [hskip, asciiWords, splitOnP_append_cons_of_forall_mem hnone b (isBlank_spec b hb).1,
      hkeep]
    rfl

theorem asciiWords_spaced {fields : List (Bytes × Bytes)} {trailing : Bytes}
    (hfields : ∀ field ∈ fields, field.1.all isBlank ∧ field.2 ≠ [] ∧ field.2.all isGraphic)
    (hgaps : ∀ field ∈ fields.tail, field.1 ≠ []) (htrailing : trailing.all isBlank) :
    asciiWords (spaced fields trailing) = fields.map Prod.snd := by
  induction fields with
  | nil =>
    rw [spaced, flatMap_nil, nil_append, ← append_nil trailing, asciiWords_blanks htrailing]
    rfl
  | cons field fields ih =>
    obtain ⟨hblank, hne, hgraphic⟩ := hfields field mem_cons_self
    have hrest := ih (fun f hf => hfields f (mem_cons_of_mem _ hf))
      fun f hf => hgaps f (mem_of_mem_tail hf)
    -- the word ends where the next one's blanks begin
    have hends : ∀ b ∈ (spaced fields trailing).head?, isBlank b := by
      intro b hb
      rcases fields with _ | ⟨next, fields⟩
      · exact all_eq_true.mp htrailing b (mem_of_mem_head? hb)
      · obtain ⟨c, gap, hgap⟩ := exists_cons_of_ne_nil (hgaps next mem_cons_self)
        have hnext := (hfields next (mem_cons_of_mem _ mem_cons_self)).1
        rw [hgap, all_cons, Bool.and_eq_true] at hnext
        rw [spaced, flatMap_cons, hgap] at hb
        cases hb
        exact hnext.1
    have hcut : spaced (field :: fields) trailing = field.1 ++ (field.2 ++ spaced fields trailing) := by
      simp [spaced]
    rw [hcut, asciiWords_blanks hblank, asciiWords_word hne hgraphic hends, hrest]
    rfl

theorem splitWhitespace_spaced (h : Spaced line words) : splitWhitespace line = words := by
  obtain ⟨fields, trailing, rfl, rfl, hfields, hgaps, htrailing⟩ := h
  have hascii : ∀ b ∈ spaced fields trailing, isContinuation b = false := by
    intro b hb
    rw [spaced, mem_append, mem_flatMap] at hb
    rcases hb with ⟨field, hfield, hb⟩ | hb
    · obtain ⟨hblank, -, hgraphic⟩ := hfields field hfield
      rcases mem_append.mp hb with hb | hb
      · exact (isBlank_spec b (all_eq_true.mp hblank b hb)).2
      · exact (isGraphic_spec b (all_eq_true.mp hgraphic b hb)).2
    · exact (isBlank_spec b (all_eq_true.mp htrailing b hb)).2
  rw [splitWhitespace_ascii hascii]
  exact asciiWords_spaced hfields hgaps htrailing

/-! ## Numbers -/

def numeralValue (word : Bytes) : Nat := word.foldl (fun n b => n * 10 + (b.toNat - 48)) 0

/-- Decimal digits that stand for the 64-bit number `n`. -/
def Numeral (word : Bytes) (n : Nat) : Prop :=
  word ≠ [] ∧ word.all isAsciiDigit ∧ numeralValue word = n ∧ n < 2 ^ 64

instance (word : Bytes) (n : Nat) : Decidable (Numeral word n) :=
  inferInstanceAs (Decidable (_ ∧ _ ∧ _ ∧ _))

theorem le_foldl_digits (word : Bytes) (acc : Nat) :
    acc ≤ word.foldl (fun n b => n * 10 + (b.toNat - 48)) acc := by
  induction word generalizing acc with
  | nil => exact Nat.le_refl acc
  | cons b word ih =>
    have := ih (acc * 10 + (b.toNat - 48))
    rw [foldl_cons]
    omega

theorem foldlM_digits {bound : Nat} (hdigits : word.all isAsciiDigit) (acc : Nat)
    (hbound : word.foldl (fun n b => n * 10 + (b.toNat - 48)) acc < bound) :
    word.foldlM (fun n b =>
      if isAsciiDigit b && n * 10 + (b.toNat - 48) < bound then some (n * 10 + (b.toNat - 48)) else none) acc
      = some (word.foldl (fun n b => n * 10 + (b.toNat - 48)) acc) := by
  induction word generalizing acc with
  | nil => rfl
  | cons b word ih =>
    rw [all_cons, Bool.and_eq_true] at hdigits
    have hstep : acc * 10 + (b.toNat - 48) < bound :=
      Nat.lt_of_le_of_lt (le_foldl_digits word _) hbound
    rw [foldlM_cons, hdigits.1, decide_eq_true hstep]
    exact ih hdigits.2 _ hbound

theorem parseU64_numeral (h : Numeral word n) : parseU64 word = .ok n := by
  obtain ⟨hne, hdigits, rfl, hbound⟩ := h
  have hparse : parseUnsigned (2 ^ 64) word = some (numeralValue word) := by
    obtain ⟨b, rest, rfl⟩ := exists_cons_of_ne_nil hne
    have hsign : b ≠ 43 := by
      rintro rfl
      cases hdigits
    unfold parseUnsigned
    split
    next hplus => cases hplus; exact absurd rfl hsign
    next => exact foldlM_digits hdigits 0 hbound
  rw [parseU64, hparse]

/-! ## Well-formed text -/

structure CpuTicks where
  user : Nat
  nice : Nat
  system : Nat
  idle : Nat
  iowait : Nat
  irq : Nat
  softirq : Nat
  steal : Nat

inductive CpuCategory
  | user | system | idle | iowait | steal

/-- The ticks of a reported category: user time includes nice time. -/
def CpuTicks.of (t : CpuTicks) : CpuCategory → Nat
  | .user => t.user + t.nice
  | .system => t.system
  | .idle => t.idle
  | .iowait => t.iowait
  | .steal => t.steal

def reportedNanos (o : NodeCpuObservation) : CpuCategory → Nat
  | .user => o.userNanos
  | .system => o.systemNanos
  | .idle => o.idleNanos
  | .iowait => o.iowaitNanos
  | .steal => o.stealNanos

/-- The last line that starts with `cpu ` holds these ticks, and possibly further words. -/
def AggregateCpu (contents : Bytes) (t : CpuTicks) : Prop :=
  ∃ before line after user nice system idle iowait irq softirq steal more,
    lines contents = before ++ (text "cpu " ++ line) :: after ∧
    (∀ later ∈ after, later.dropPrefix? (text "cpu ") = none) ∧
    Spaced line (user :: nice :: system :: idle :: iowait :: irq :: softirq :: steal :: more) ∧
    Numeral user t.user ∧ Numeral nice t.nice ∧ Numeral system t.system ∧ Numeral idle t.idle ∧
    Numeral iowait t.iowait ∧ Numeral irq t.irq ∧ Numeral softirq t.softirq ∧ Numeral steal t.steal

/-- The status of a process with these user and system ticks: behind the last closing parenthesis come a space and
at least 22 words, of which the twelfth and the thirteenth are the ticks. -/
def ProcessCpu (stat : Bytes) (utime stime : Nat) : Prop :=
  ∃ before command rest words user system,
    stat = before ++ text "(" ++ command ++ text ") " ++ rest ∧ (41 : UInt8) ∉ rest ∧ Spaced rest words ∧
    22 ≤ words.length ∧ words[11]? = some user ∧ words[12]? = some system ∧
    Numeral user utime ∧ Numeral system stime

/-! ## What is reported -/

/-- The time that `ticks` take, rounded down. -/
def exactNanos (ticks hz : Nat) : Nat := ticks * 10 ^ 9 / hz

/-- The largest time that a division by `hz` can still give once the product has saturated. -/
def ceiling (hz : Nat) : Nat := (2 ^ 64 - 1) / hz

theorem min_div (a b n : Nat) : min a b / n = min (a / n) (b / n) :=
  Monotone.map_min fun _ _ h => Nat.div_le_div_right h

theorem ticksToNanos_eq (hhz : 1 ≤ hz) (ticks : Nat) :
    ticksToNanos ticks hz = min (exactNanos ticks hz) (ceiling hz) := by
  rw [ticksToNanos, saturatingMul, Nat.max_eq_left hhz, min_div]
  rfl

theorem ticksToNanos_saturatingAdd (hhz : 1 ≤ hz) (a b : Nat) :
    ticksToNanos (saturatingAdd a b) hz = min (exactNanos (a + b) hz) (ceiling hz) := by
  have hproduct : min (min (a + b) (2 ^ 64 - 1) * 10 ^ 9) (2 ^ 64 - 1) = min ((a + b) * 10 ^ 9) (2 ^ 64 - 1) := by
    omega
  rw [exactNanos, ceiling, ← min_div, ← hproduct, min_div]
  exact ticksToNanos_eq hhz _

theorem StatLines.cpuFields_read_cpu (kept : StatLines) (line : Bytes) :
    (kept.read (text "cpu " ++ line)).cpuFields = some line := by
  have hdrop : (text "cpu " ++ line).dropPrefix? (text "cpu ") = some line :=
    List.dropPrefix?_append_of_beq line (beq_self_eq_true _)
  rw [StatLines.read, hdrop]

theorem StatLines.cpuFields_read_other (kept : StatLines) (h : line.dropPrefix? (text "cpu ") = none) :
    (kept.read line).cpuFields = kept.cpuFields := by
  unfold StatLines.read
  rw [h]
  dsimp only
  split
  · rfl
  · split <;> rfl

theorem cpuFields_statLines {before after : List Bytes}
    (hlines : lines contents = before ++ (text "cpu " ++ line) :: after)
    (hafter : ∀ later ∈ after, later.dropPrefix? (text "cpu ") = none) :
    (statLines contents).cpuFields = some line := by
  rw [statLines, hlines, foldl_append, foldl_cons]
  refine List.foldlRecOn (motive := fun kept : StatLines => kept.cpuFields = some line) after _ ?_ ?_
  · exact StatLines.cpuFields_read_cpu _ _
  · intro kept hkept later hlater
    rw [StatLines.cpuFields_read_other kept (hafter later hlater)]
    exact hkept

/-- A text of `/proc/stat` and the times between which it is read. -/
structure CpuSample where
  contents : Bytes
  start : Nat
  stop : Nat

def CpuSample.parse (x : CpuSample) (hz : Nat) : Except ParseError NodeCpuObservation :=
  parseCpuStat x.contents hz x.start x.stop

theorem CpuSample.parse_aggregate {x : CpuSample} {t : CpuTicks} (h : AggregateCpu x.contents t) (hhz : 1 ≤ hz) :
    ∃ o, x.parse hz = .ok o ∧ ∀ c, reportedNanos o c = min (exactNanos (t.of c) hz) (ceiling hz) := by
  obtain ⟨before, line, after, user, nice, system, idle, iowait, irq, softirq, steal, more, hlines, hafter, hwords,
    huser, hnice, hsystem, hidle, hiowait, -, -, hsteal⟩ := h
  rw [CpuSample.parse, parseCpuStat, cpuFields_statLines hlines hafter]
  dsimp only
  rw [splitWhitespace_spaced hwords, cpuObservation, parseU64_numeral huser, parseU64_numeral hnice,
    parseU64_numeral hsystem, parseU64_numeral hidle, parseU64_numeral hiowait, parseU64_numeral hsteal]
  refine ⟨_, rfl, ?_⟩
  rintro (_ | _ | _ | _ | _)
  · exact ticksToNanos_saturatingAdd hhz _ _
  all_goals exact ticksToNanos_eq hhz _

theorem findByte_notMem_append {b : UInt8} {l : Bytes} (h : b ∉ l) (rest : Bytes) :
    findByte (l ++ b :: rest) b = some l.length := by
  rw [findByte, List.findIdx?_append, List.findIdx?_eq_none_iff.mpr]
  · rw [List.findIdx?_cons, beq_self_eq_true]
    simp
  · intro c hc
    exact beq_false_of_ne fun hcb => h (hcb ▸ hc)

theorem splitCommand_ok (before command : Bytes) (h : (41 : UInt8) ∉ rest) :
    ∃ name, splitCommand (before ++ text "(" ++ command ++ text ") " ++ rest) = .ok (name, rest) := by
  have hstat : before ++ text "(" ++ command ++ text ") " ++ rest
      = (before ++ 40 :: command) ++ 41 :: 32 :: rest := by
    simp [text]
  have hlast : findLastByte ((before ++ 40 :: command) ++ 41 :: 32 :: rest) 41
      = some (before ++ 40 :: command).length := by
    have hnot : (41 : UInt8) ∉ rest.reverse ++ [32] := by
      rw [mem_append, mem_reverse]
      rintro (hrest | hspace)
      · exact h hrest
      · cases mem_singleton.mp hspace
    have hrev : ((before ++ 40 :: command) ++ 41 :: 32 :: rest).reverse
        = (rest.reverse ++ [32]) ++ 41 :: (before ++ 40 :: command).reverse := by
      simp
    rw [findLastByte, hrev, findByte_notMem_append hnot]
    simp
    omega
  have hopen : ∃ i, findByte (before ++ 40 :: command) 40 = some i := by
    rw [← Option.isSome_iff_exists, findByte, List.findIdx?_isSome, any_eq_true]
    exact ⟨40, mem_append_right _ mem_cons_self, beq_self_eq_true _⟩
  obtain ⟨i, hi⟩ := hopen
  have hdrop : ((before ++ 40 :: command) ++ 41 :: 32 :: rest).drop ((before ++ 40 :: command).length + 1)
      = 32 :: rest := by
    rw [← drop_drop, drop_left]
    rfl
  have hspace : (32 :: rest : Bytes).dropPrefix? [32] = some rest :=
    @List.dropPrefix?_append_of_beq UInt8 _ [32] [32] rest (beq_self_eq_true _)
  refine ⟨(before ++ 40 :: command).drop (i + 1), ?_⟩
  rw [hstat, splitCommand, hlast]
  dsimp only
  rw [take_left, hi, hdrop]
  rw [hspace]

theorem drop_eq_cons {α : Type} {l : List α} {a : α} (h : l[n]? = some a) : l.drop n = a :: l.drop (n + 1) := by
  obtain ⟨hn, rfl⟩ := List.getElem?_eq_some_iff.mp h
  exact drop_eq_getElem_cons hn

theorem processFields_ok {user system : Bytes} (hlength : 22 ≤ words.length) (huser : words[11]? = some user)
    (hsystem : words[12]? = some system) :
    ∃ fields, processFields words = some fields ∧ fields.utime = user ∧ fields.stime = system := by
  have hword : ∀ n < words.length, ∃ word, words[n]? = some word := fun n hn => ⟨_, List.getElem?_eq_getElem hn⟩
  obtain ⟨state, hstate⟩ := hword 0 (by omega)
  obtain ⟨ppid, hppid⟩ := hword 1 (by omega)
  obtain ⟨threads, hthreads⟩ := hword 17 (by omega)
  obtain ⟨vsize, hvsize⟩ := hword 20 (by omega)
  obtain ⟨rss, hrss⟩ := hword 21 (by omega)
  have hstart : words = state :: ppid :: words.drop 2 := by
    rw [← drop_eq_cons hppid, ← drop_eq_cons hstate, drop_zero]
  refine ⟨⟨ppid, user, system, threads, vsize, rss⟩, ?_, rfl, rfl⟩
  rw [hstart, processFields, drop_drop, drop_eq_cons huser, drop_eq_cons hsystem]
  dsimp only
  rw [drop_drop, drop_eq_cons hthreads]
  dsimp only
  rw [drop_drop, drop_eq_cons hvsize, drop_eq_cons hrss]

/-- The status of a process, what else is known of it, and the times between which it is read. -/
structure ProcessSample where
  pid : Nat
  stat : Bytes
  status : Option Bytes := none
  pageSizeBytes : Nat := 4096
  fdCount : Nat := 0
  socketCount : Nat := 0
  start : Nat
  stop : Nat

def ProcessSample.parse (x : ProcessSample) (hz : Nat) : Except ParseError ProcessResourceObservation :=
  parseProcessStat x.pid x.stat x.status hz x.pageSizeBytes x.fdCount x.socketCount x.start x.stop

theorem ProcessSample.parse_ok {x : ProcessSample} {utime stime : Nat} (h : ProcessCpu x.stat utime stime)
    (hhz : 1 ≤ hz) :
    ∃ o, x.parse hz = .ok o ∧ o.cpuTimeNanos = some (min (exactNanos (utime + stime) hz) (ceiling hz)) := by
  obtain ⟨before, command, rest, words, user, system, hstat, hrest, hwords, hlength, huser, hsystem, hutime,
    hstime⟩ := h
  obtain ⟨name, hname⟩ := splitCommand_ok before command hrest
  obtain ⟨fields, hfields, rfl, rfl⟩ := processFields_ok hlength huser hsystem
  rw [ProcessSample.parse, parseProcessStat, hstat, hname, ← ticksToNanos_saturatingAdd hhz]
  dsimp only [bind, Except.bind]
  rw [splitWhitespace_spaced hwords, hfields]
  dsimp only
  rw [processObservation, parseU64_numeral hutime, parseU64_numeral hstime]
  exact ⟨_, rfl, rfl⟩

/-! ## Exactness -/

/-- So many ticks are at least a nanosecond. -/
def nanoTicks (hz : Nat) : Nat := (hz + (10 ^ 9 - 1)) / 10 ^ 9

theorem exactNanos_lt {ticks later : Nat} (hhz : 1 ≤ hz) (h : ticks + nanoTicks hz ≤ later) :
    exactNanos ticks hz < exactNanos later hz := by
  have hround : hz ≤ nanoTicks hz * 10 ^ 9 := by
    unfold nanoTicks
    omega
  have hproduct : ticks * 10 ^ 9 + hz ≤ later * 10 ^ 9 := by
    have hmul := Nat.mul_le_mul_right (10 ^ 9) h
    rw [Nat.add_mul] at hmul
    exact Nat.le_trans (Nat.add_le_add_left hround _) hmul
  have hnext : (ticks * 10 ^ 9 + hz) / hz = exactNanos ticks hz + 1 := Nat.add_div_right _ hhz
  have hle : (ticks * 10 ^ 9 + hz) / hz ≤ exactNanos later hz := Nat.div_le_div_right hproduct
  omega

section

variable {x x' : CpuSample} {t t' : CpuTicks} (h : AggregateCpu x.contents t) (hhz : 1 ≤ hz)
include h hhz

theorem CpuSample.exact_iff :
    (∃ o, x.parse hz = .ok o ∧ ∀ c, reportedNanos o c = exactNanos (t.of c) hz) ↔
      ∀ c, exactNanos (t.of c) hz ≤ ceiling hz := by
  obtain ⟨o, ho, hreported⟩ := x.parse_aggregate h hhz
  rw [ho]
  constructor
  · rintro ⟨_, ⟨⟩, hexact⟩ c
    rw [← hexact c, hreported c]
    exact Nat.min_le_right _ _
  · intro hbelow
    refine ⟨o, rfl, fun c => ?_⟩
    rw [hreported c, Nat.min_eq_left (hbelow c)]

theorem CpuSample.lt_iff (h' : AggregateCpu x'.contents t') {c : CpuCategory}
    (hlater : t.of c + nanoTicks hz ≤ t'.of c) :
    ∃ o o', x.parse hz = .ok o ∧ x'.parse hz = .ok o' ∧
      (reportedNanos o c < reportedNanos o' c ↔ exactNanos (t.of c) hz < ceiling hz) := by
  obtain ⟨o, ho, hreported⟩ := x.parse_aggregate h hhz
  obtain ⟨o', ho', hreported'⟩ := x'.parse_aggregate h' hhz
  have hlt := exactNanos_lt hhz hlater
  refine ⟨o, o', ho, ho', ?_⟩
  rw [hreported c, hreported' c]
  omega

end

section

variable {x x' : ProcessSample} {utime stime utime' stime' : Nat} (h : ProcessCpu x.stat utime stime) (hhz : 1 ≤ hz)
include h hhz

theorem ProcessSample.exact_iff :
    (∃ o, x.parse hz = .ok o ∧ o.cpuTimeNanos = some (exactNanos (utime + stime) hz)) ↔
      exactNanos (utime + stime) hz ≤ ceiling hz := by
  obtain ⟨o, ho, hreported⟩ := x.parse_ok h hhz
  rw [ho]
  constructor
  · rintro ⟨_, ⟨⟩, hexact⟩
    rw [hreported, Option.some.injEq] at hexact
    rw [← hexact]
    exact Nat.min_le_right _ _
  · intro hbelow
    refine ⟨o, rfl, ?_⟩
    rw [hreported, Nat.min_eq_left hbelow]

theorem ProcessSample.lt_iff (h' : ProcessCpu x'.stat utime' stime')
    (hlater : utime + stime + nanoTicks hz ≤ utime' + stime') :
    ∃ o o' time time', x.parse hz = .ok o ∧ x'.parse hz = .ok o' ∧ o.cpuTimeNanos = some time ∧
      o'.cpuTimeNanos = some time' ∧ (time < time' ↔ exactNanos (utime + stime) hz < ceiling hz) := by
  obtain ⟨o, ho, hreported⟩ := x.parse_ok h hhz
  obtain ⟨o', ho', hreported'⟩ := x'.parse_ok h' hhz
  have hlt := exactNanos_lt hhz hlater
  refine ⟨o, o', _, _, ho, ho', hreported, hreported', ?_⟩
  omega

end

/-- **When the reported CPU times are exact.** For well-formed text at a clock rate of `hz`:
the categories of `/proc/stat`, and the time of a process, are reported exactly if and only if no exact time is above
`(2 ^ 64 - 1) / hz`; and of two counts that are a nanosecond or more apart, the larger is reported as larger if and
only if the time of the smaller is below that. -/
theorem exact_iff_below_ceiling {hz : Nat} (hhz : 1 ≤ hz) :
    (∀ (x : CpuSample) t, AggregateCpu x.contents t →
      ((∃ o, x.parse hz = .ok o ∧ ∀ c, reportedNanos o c = exactNanos (t.of c) hz) ↔
        ∀ c, exactNanos (t.of c) hz ≤ ceiling hz)) ∧
    (∀ (x : ProcessSample) utime stime, ProcessCpu x.stat utime stime →
      ((∃ o, x.parse hz = .ok o ∧ o.cpuTimeNanos = some (exactNanos (utime + stime) hz)) ↔
        exactNanos (utime + stime) hz ≤ ceiling hz)) ∧
    (∀ (x x' : CpuSample) t t' c, AggregateCpu x.contents t → AggregateCpu x'.contents t' →
      t.of c + nanoTicks hz ≤ t'.of c →
      ∃ o o', x.parse hz = .ok o ∧ x'.parse hz = .ok o' ∧
        (reportedNanos o c < reportedNanos o' c ↔ exactNanos (t.of c) hz < ceiling hz)) ∧
    (∀ (x x' : ProcessSample) utime stime utime' stime', ProcessCpu x.stat utime stime →
      ProcessCpu x'.stat utime' stime' → utime + stime + nanoTicks hz ≤ utime' + stime' →
      ∃ o o' time time', x.parse hz = .ok o ∧ x'.parse hz = .ok o' ∧ o.cpuTimeNanos = some time ∧
        o'.cpuTimeNanos = some time' ∧ (time < time' ↔ exactNanos (utime + stime) hz < ceiling hz)) :=
  ⟨fun _ _ h => CpuSample.exact_iff h hhz, fun _ _ _ h => ProcessSample.exact_iff h hhz,
    fun _ _ _ _ _ h h' hlater => CpuSample.lt_iff h hhz h' hlater,
    fun _ _ _ _ _ _ h h' hlater => ProcessSample.lt_iff h hhz h' hlater⟩

/-! ## Frozen counters -/

/-- A `/proc/stat` whose cores together have been busy for `user` ticks. -/
def uptime (user : String) : Bytes := text "cpu  " ++ text user ++ text " 0 7 0 0 0 0 0 0 0\n"

def idleFields : List (Bytes × Bytes) :=
  ["0", "7", "0", "0", "0", "0", "0", "0", "0"].map fun word => (text " ", text word)

theorem aggregateCpu_uptime {user : String} (h : Numeral (text user) n) (hgraphic : (text user).all isGraphic)
    (hlines : lines (uptime user) = [text "cpu " ++ spaced ((text " ", text user) :: idleFields) []]) :
    AggregateCpu (uptime user) ⟨n, 0, 7, 0, 0, 0, 0, 0⟩ := by
  have hzero : Numeral (text "0") 0 := by decide +kernel
  have hseven : Numeral (text "7") 7 := by decide +kernel
  have hidle : ∀ field ∈ idleFields, field.1.all isBlank ∧ field.2 ≠ [] ∧ field.2.all isGraphic := by decide +kernel
  have hgaps : ∀ field ∈ idleFields, field.1 ≠ [] := by decide +kernel
  refine ⟨[], _, [], text user, text "0", text "7", text "0", text "0", text "0", text "0", text "0",
    [text "0", text "0"], hlines, ?_, ?_, h, hzero, hseven, hzero, hzero, hzero, hzero, hzero⟩
  · intro later hlater
    cases hlater
  · refine ⟨(text " ", text user) :: idleFields, [], rfl, rfl, ?_, hgaps, rfl⟩
    exact forall_mem_cons.mpr ⟨⟨rfl, h.1, hgraphic⟩, hidle⟩

/-- At 100 ticks a second, 18446744074 ticks are 184467440740000000 ns, which 64 bits can hold; 184467440737095516 ns
are reported, and the same after 10 seconds more. -/
theorem not_exact_saturated :
    AggregateCpu (uptime "18446744074") ⟨18446744074, 0, 7, 0, 0, 0, 0, 0⟩ ∧
    AggregateCpu (uptime "18446745074") ⟨18446745074, 0, 7, 0, 0, 0, 0, 0⟩ ∧
    exactNanos 18446744074 100 = 184467440740000000 ∧ 184467440740000000 < 2 ^ 64 ∧
    (parseCpuStat (uptime "18446744074") 100 0 1).toOption.map (reportedNanos · .user)
      = some 184467440737095516 ∧
    (parseCpuStat (uptime "18446745074") 100 0 1).toOption.map (reportedNanos · .user)
      = some 184467440737095516 := by
  refine ⟨aggregateCpu_uptime (by decide +kernel) (by decide +kernel) (by decide +kernel),
    aggregateCpu_uptime (by decide +kernel) (by decide +kernel) (by decide +kernel), ?_, ?_, ?_, ?_⟩ <;>
  decide +kernel

def statFields (user : String) : List (Bytes × Bytes) :=
  ([], text "S") :: ["0", "1", "1", "0", "-1", "0", "0", "0", "0", "0", user, "7", "0", "0", "20", "0", "1", "0", "5",
    "4096", "1"].map fun word => (text " ", text word)

/-- A process that has run for `user` and 7 ticks. -/
def initStat (user : String) : ProcessSample where
  pid := 1
  stat := text "1 " ++ text "(" ++ text "init" ++ text ") " ++ spaced (statFields user) []
  start := 0
  stop := 1

theorem processCpu_initStat {user : String} (h : Numeral (text user) n)
    (hparenthesis : (41 : UInt8) ∉ spaced (statFields user) [])
    (hfields : ∀ field ∈ statFields user, field.1.all isBlank ∧ field.2 ≠ [] ∧ field.2.all isGraphic) :
    ProcessCpu (initStat user).stat n 7 := by
  refine ⟨text "1 ", text "init", _, _, text user, text "7", rfl, hparenthesis,
    ⟨statFields user, [], rfl, rfl, hfields, ?_, rfl⟩, Nat.le_refl 22, rfl, rfl, h, by decide +kernel⟩
  intro field hfield
  obtain ⟨word, -, rfl⟩ := mem_map.mp hfield
  exact cons_ne_nil _ _

theorem exact_below_ceiling_idle :
    (∃ o, CpuSample.parse ⟨uptime "250", 0, 1⟩ 100 = .ok o ∧
      ∀ c, reportedNanos o c = exactNanos ((CpuTicks.mk 250 0 7 0 0 0 0 0).of c) 100) ∧
    (∃ o, (initStat "250").parse 100 = .ok o ∧ o.cpuTimeNanos = some (exactNanos (250 + 7) 100)) ∧
    (∃ o o', CpuSample.parse ⟨uptime "250", 0, 1⟩ 100 = .ok o ∧ CpuSample.parse ⟨uptime "260", 1, 2⟩ 100 = .ok o' ∧
      reportedNanos o .user < reportedNanos o' .user) ∧
    ∃ o o' time time', (initStat "250").parse 100 = .ok o ∧ (initStat "260").parse 100 = .ok o' ∧
      o.cpuTimeNanos = some time ∧ o'.cpuTimeNanos = some time' ∧ time < time' := by
  have hcpu : AggregateCpu (uptime "250") ⟨250, 0, 7, 0, 0, 0, 0, 0⟩ :=
    aggregateCpu_uptime (by decide +kernel) (by decide +kernel) (by decide +kernel)
  have hcpu' : AggregateCpu (uptime "260") ⟨260, 0, 7, 0, 0, 0, 0, 0⟩ :=
    aggregateCpu_uptime (by decide +kernel) (by decide +kernel) (by decide +kernel)
  have hprocess : ProcessCpu (initStat "250").stat 250 7 :=
    processCpu_initStat (by decide +kernel) (by decide +kernel) (by decide +kernel)
  have hprocess' : ProcessCpu (initStat "260").stat 260 7 :=
    processCpu_initStat (by decide +kernel) (by decide +kernel) (by decide +kernel)
  obtain ⟨cpuExact, processExact, cpuLater, processLater⟩ := @exact_iff_below_ceiling 100 (by decide)
  obtain ⟨o, o', ho, ho', hlt⟩ := cpuLater ⟨_, 0, 1⟩ ⟨_, 1, 2⟩ _ _ .user hcpu hcpu' (by decide)
  obtain ⟨r, r', time, time', hr, hr', htime, htime', hprocesslt⟩ :=
    processLater (initStat "250") (initStat "260") _ _ _ _ hprocess hprocess' (by decide)
  refine ⟨(cpuExact ⟨_, 0, 1⟩ _ hcpu).mpr ?_, (processExact _ _ _ hprocess).mpr (by decide),
    ⟨o, o', ho, ho', hlt.mpr (by decide)⟩, r, r', time, time', hr, hr', htime, htime', hprocesslt.mpr (by decide)⟩
  rintro (_ | _ | _ | _ | _) <;> decide

end ENavigator.Host
