import LogEgress.Proofs.Syslog.Calendar
import LogEgress.Proofs.Syslog.Frame
import LogEgress.Proofs.Syslog.Message

set_option autoImplicit false

/-! # Timestamps are exact

The second field of a message is a date and a time of day, written as numbers of fixed widths with
a mark after each. `readStamp?` reads such a text and nothing else; what it reads is the time of
the envelope to the nanosecond, however far from 1970 that is (`every_timestamp_exact`). Since the
greatest unit stands first and all widths are fixed, the octets of two fields compare as the times
do.
-/

namespace LogEgress.Syslog

open CivilTime (padded)

/-! ## Numbers of a fixed width -/

section Padded

variable {width m n : Nat}

theorem ofDigitChars_padded (width n : Nat) : Nat.ofDigitChars 10 (padded width n) 0 = n := by
  rw [padded, Nat.ofDigitChars_append, Nat.ofDigitChars_replicate_zero, Nat.mul_zero,
    Nat.ofDigitChars_ten_toDigits]

theorem length_padded (hwidth : 0 < width) (h : n < 10 ^ width) :
    (padded width n).length = width := by
  have hle := (Nat.length_toDigits_le_iff (b := 10) (by decide) hwidth).2 h
  rw [padded, List.length_append, List.length_replicate, Nat.sub_add_cancel hle]

/-- The last digit of a number stands last. -/
theorem padded_succ (hwidth : 0 < width) (n : Nat) :
    padded (width + 1) n = padded width (n / 10) ++ [Nat.digitChar (n % 10)] := by
  unfold padded
  by_cases h : n < 10
  · rw [Nat.toDigits_of_lt_base h, Nat.div_eq_of_lt h, Nat.mod_eq_of_lt h, Nat.toDigits_zero]
    obtain ⟨k, rfl⟩ : ∃ k, width = k + 1 := Nat.exists_eq_succ_of_ne_zero (by omega)
    simp [List.replicate_succ']
  · rw [Nat.toDigits_of_base_le (by decide) (Nat.le_of_not_lt h)]
    dsimp only
    rw [List.length_append, List.length_singleton, Nat.add_sub_add_right, List.append_assoc]

/-- The first of two texts of one length decides, whatever follows. -/
theorem append_lt_append {a b : List Char} (hlength : a.length = b.length) (h : a < b)
    (s t : List Char) : a ++ s < b ++ t := by
  induction a generalizing b with
  | nil =>
    rw [List.length_eq_zero_iff.1 hlength.symm] at h
    exact absurd h (List.lt_irrefl [])
  | cons c a ih =>
    cases b with
    | nil => exact absurd hlength (Nat.succ_ne_zero _)
    | cons d b =>
      rw [List.cons_append, List.cons_append, List.cons_lt_cons_iff]
      rcases List.cons_lt_cons_iff.1 h with hlt | ⟨hcd, hrest⟩
      · exact .inl hlt
      · exact .inr ⟨hcd, ih (Nat.succ.inj hlength) hrest⟩

theorem digitChar_lt (hn : n < 10) (h : m < n) : Nat.digitChar m < Nat.digitChar n := by
  have key : ∀ n < 10, ∀ m < n, Nat.digitChar m < Nat.digitChar n := by decide
  exact key n hn m h

/-- **Numbers of one width compare as texts.** The induction takes off the last digit. -/
theorem padded_lt (hwidth : 0 < width) (hn : n < 10 ^ width) (h : m < n) :
    padded width m < padded width n := by
  induction width, hwidth using Nat.le_induction generalizing m n with
  | base =>
    have hten : n < 10 := hn
    rw [padded, padded, Nat.toDigits_of_lt_base hten, Nat.toDigits_of_lt_base (by omega)]
    exact List.cons_lt_cons_iff.2 (.inl (digitChar_lt hten h))
  | succ width hwidth ih =>
    have hpos : 0 < width := hwidth
    rw [padded_succ hpos, padded_succ hpos]
    have hbound : n / 10 < 10 ^ width := by
      rw [Nat.pow_succ] at hn
      omega
    rcases Nat.lt_or_ge (m / 10) (n / 10) with hlt | hge
    · refine append_lt_append ?_ (ih hbound hlt) _ _
      rw [length_padded hpos (by omega), length_padded hpos hbound]
    · have hsame : m / 10 = n / 10 := by omega
      rw [hsame]
      exact List.append_left_lt
        (List.cons_lt_cons_iff.2 (.inl (digitChar_lt (by omega) (by omega))))

end Padded

/-! ## Reading and writing numbers with marks -/

/-- The number that digits make. -/
def decimal (o : Octets) : Nat := o.foldl (fun n b => 10 * n + (b.toNat - 48)) 0

/-- Takes off a number of a width and the mark after it. -/
def cutNumber? (width : Nat) (mark : Char) (o : Octets) : Option (Nat × Octets) :=
  let digits := o.take width
  if digits.length = width ∧ digits.all isDigit then
    match o.drop width with
    | b :: rest => if b.toNat = mark.toNat then some (decimal digits, rest) else none
    | [] => none
  else none

/-- Numbers of given widths, with a mark after each. -/
abbrev Form := List (Nat × Char)

/-- Reads the numbers of a form. Nothing may follow them. -/
def Form.read? : Form → Octets → Option (List Nat)
  | [], o => if o = [] then some [] else none
  | (width, mark) :: form, o => do
    let (n, o) ← cutNumber? width mark o
    let ns ← read? form o
    return n :: ns

/-- Numbers in a form. -/
def Form.write : Form → List Nat → List Char
  | (width, mark) :: form, n :: ns => padded width n ++ mark :: write form ns
  | _, _ => []

/-- The widths are positive, and the marks are in ASCII. -/
def Form.Plain (form : Form) : Prop := ∀ p ∈ form, 0 < p.1 ∧ p.2.toNat < 128

instance (form : Form) : Decidable form.Plain := inferInstanceAs (Decidable (∀ _ ∈ _, _))

/-- Numbers that are not too great for the widths. -/
abbrev Form.Fits (form : Form) (ns : List Nat) : Prop :=
  List.Forall₂ (fun p n => n < 10 ^ p.1) form ns

theorem utf8_digits {ds : List Char} (h : ∀ c ∈ ds, c.isDigit = true) :
    (utf8 ds).length = ds.length ∧ (utf8 ds).all isDigit = true ∧
      ∀ n, (utf8 ds).foldl (fun n b => 10 * n + (b.toNat - 48)) n = Nat.ofDigitChars 10 ds n := by
  induction ds with
  | nil => exact ⟨rfl, rfl, fun n => rfl⟩
  | cons c ds ih =>
    obtain ⟨hlength, hall, hvalue⟩ := ih fun d hd => h d (List.mem_cons_of_mem c hd)
    obtain ⟨b, hutf8, hdigit, -, hb⟩ := exists_octet_of_isDigit (h c List.mem_cons_self)
    rw [Utf8.utf8_cons, hutf8, List.singleton_append]
    refine ⟨?_, ?_, fun n => ?_⟩
    · rw [List.length_cons, List.length_cons, hlength]
    · rw [List.all_cons, hdigit, hall, Bool.and_self]
    · rw [List.foldl_cons, hvalue, hb]
      rfl

theorem cutNumber?_padded {width n : Nat} {mark : Char} (hwidth : 0 < width)
    (hmark : mark.toNat < 128) (hn : n < 10 ^ width) (rest : List Char) :
    cutNumber? width mark (utf8 (padded width n ++ mark :: rest)) = some (n, utf8 rest) := by
  obtain ⟨hlength, hall, hvalue⟩ := utf8_digits fun c (hc : c ∈ padded width n) =>
    isDigit_of_mem_padded hc
  have hvalue : decimal (utf8 (padded width n)) = n :=
    (hvalue 0).trans (ofDigitChars_padded width n)
  have hwhole : (utf8 (padded width n)).length = width :=
    hlength.trans (length_padded hwidth hn)
  have hself : (UInt8.ofNat mark.toNat).toNat = mark.toNat := Utf8.toNat_octet (by omega)
  rw [Utf8.utf8_append, Utf8.utf8_cons, Utf8.utf8EncodeChar_of_lt hmark, List.singleton_append,
    cutNumber?, List.take_left' hwhole, List.drop_left' hwhole]
  dsimp only
  rw [if_pos ⟨hwhole, hall⟩, if_pos hself, hvalue]

namespace Form

variable {form : Form} {ns ns' : List Nat}

/-- **Numbers are read as they are written.** -/
theorem read?_write (hplain : form.Plain) (h : form.Fits ns) :
    form.read? (utf8 (form.write ns)) = some ns := by
  induction h with
  | nil => rfl
  | @cons p n form ns hn h ih =>
    obtain ⟨hwidth, hmark⟩ := hplain p List.mem_cons_self
    rw [write, read?, cutNumber?_padded hwidth hmark hn]
    show (do let ns ← read? form (utf8 (write form ns)); return n :: ns) = _
    rw [ih fun q hq => hplain q (List.mem_cons_of_mem p hq)]
    rfl

theorem length_write (hplain : form.Plain) (h : form.Fits ns) :
    (form.write ns).length = (form.map (·.1 + 1)).sum := by
  induction h with
  | nil => rfl
  | @cons p n form ns hn h ih =>
    rw [write, List.length_append, List.length_cons, List.map_cons, List.sum_cons,
      length_padded (hplain p List.mem_cons_self).1 hn,
      ih fun q hq => hplain q (List.mem_cons_of_mem p hq)]
    omega

theorem lt_of_mem_write (hplain : form.Plain) {c : Char} (hc : c ∈ form.write ns) :
    c.toNat < 128 := by
  induction form generalizing ns with
  | nil => cases hc
  | cons p form ih =>
    cases ns with
    | nil => cases hc
    | cons n ns =>
      rw [write, List.mem_append, List.mem_cons] at hc
      rcases hc with hdigit | rfl | hrest
      · have := toNat_of_isDigit (isDigit_of_mem_padded hdigit)
        omega
      · exact (hplain p List.mem_cons_self).2
      · exact ih (fun q hq => hplain q (List.mem_cons_of_mem p hq)) hrest

/-- **Numbers in one form compare as texts**, from the left. -/
theorem write_lt (hplain : form.Plain) (h : form.Fits ns) (h' : form.Fits ns') (hlt : ns < ns') :
    form.write ns < form.write ns' := by
  induction h generalizing ns' with
  | nil =>
    cases h'
    exact absurd hlt (List.lt_irrefl [])
  | @cons p n form ns hn h ih =>
    cases h' with
    | @cons _ n' _ ns' hn' h' =>
      have hwidth := (hplain p List.mem_cons_self).1
      rw [write, write]
      rcases List.cons_lt_cons_iff.1 hlt with hfirst | ⟨rfl, hrest⟩
      · refine append_lt_append ?_ (padded_lt hwidth hn' hfirst) _ _
        rw [length_padded hwidth hn, length_padded hwidth hn']
      · exact List.append_left_lt (List.cons_lt_cons_iff.2
          (.inr ⟨rfl, ih (fun q hq => hplain q (List.mem_cons_of_mem p hq)) h' hrest⟩))

end Form

/-! ## Dates and times -/

/-- The form of a timestamp: `YYYY-MM-DDTHH:MM:SS.nnnnnnnnnZ`. -/
def stampForm : Form :=
  [(4, '-'), (2, '-'), (2, 'T'), (2, ':'), (2, ':'), (2, '.'), (9, 'Z')]

/-- The time with some parts. -/
def CivilTime.ofParts? : List Nat → Option CivilTime
  | [year, month, day, hour, minute, second, nanosecond] =>
    some ⟨year, month, day, hour, minute, second, nanosecond⟩
  | _ => none

/-- Reads a timestamp. -/
def readStamp? (o : Octets) : Option CivilTime := (stampForm.read? o).bind CivilTime.ofParts?

theorem stampForm_plain : stampForm.Plain := by decide

theorem CivilTime.print_eq (c : CivilTime) : c.print = stampForm.write c.parts := by
  simp [CivilTime.print, stampForm, Form.write, CivilTime.parts]

theorem monthLength_le (year month : Nat) : monthLength year month ≤ 31 := by
  unfold monthLength
  repeat' split
  all_goals decide

/-- A time before the year 10000 has its place in the form. -/
theorem CivilTime.Valid.fits {c : CivilTime} (h : c.Valid) (hyear : c.year < 10000) :
    stampForm.Fits c.parts := by
  have := h.month_le
  have := h.day_le.trans (monthLength_le _ _)
  have := h.hour_lt
  have := h.minute_lt
  have := h.second_lt
  have hmonth : c.month < 10 ^ 2 := by omega
  have hday : c.day < 10 ^ 2 := by omega
  have hhour : c.hour < 10 ^ 2 := by omega
  have hminute : c.minute < 10 ^ 2 := by omega
  have hsecond : c.second < 10 ^ 2 := by omega
  exact .cons hyear (.cons hmonth (.cons hday (.cons hhour (.cons hminute (.cons hsecond
    (.cons h.nanosecond_lt .nil))))))

/-- What it takes for a field to be the timestamp of a time, in nanoseconds from the beginning of
1970. -/
structure Exact (t : Int) (field : Octets) : Prop where
  length_eq : field.length = 30
  ascii : ∀ b ∈ field, b.toNat < 128
  reads : ∃ c, readStamp? field = some c ∧ c.Valid ∧ c.toNanoseconds = t

section

variable {t t' : Int}

/-- The times that 64 bits have room for lie between the years 0 and 10000. -/
theorem stamp_spec (hl : -2 ^ 63 ≤ t) (hu : t < 2 ^ 63) :
    (CivilTime.ofNanoseconds t).Valid ∧ (CivilTime.ofNanoseconds t).toNanoseconds = t ∧
      stampForm.Fits (CivilTime.ofNanoseconds t).parts := by
  obtain ⟨hvalid, htime⟩ := CivilTime.ofNanoseconds_spec (t := t) (by
    simp only [CivilTime.epoch]
    omega)
  refine ⟨hvalid, htime, hvalid.fits ?_⟩
  have hday := hvalid.dayOf_bounds.1
  have hmean := (daysBefore_bounds (CivilTime.ofNanoseconds t).year).1
  rw [CivilTime.toNanoseconds, ← CivilTime.epoch_eq, CivilTime.epoch] at htime
  omega

theorem exact_print (hl : -2 ^ 63 ≤ t) (hu : t < 2 ^ 63) :
    Exact t (utf8 (CivilTime.ofNanoseconds t).print) := by
  obtain ⟨hvalid, htime, hfits⟩ := stamp_spec hl hu
  have hascii : ∀ c ∈ stampForm.write (CivilTime.ofNanoseconds t).parts, c.toNat < 128 :=
    fun c hc => Form.lt_of_mem_write stampForm_plain hc
  obtain ⟨hlength, hoctets⟩ := Utf8.utf8_ascii hascii
  rw [CivilTime.print_eq]
  exact {
    length_eq := hlength.trans (Form.length_write stampForm_plain hfits)
    ascii := hoctets
    reads := ⟨CivilTime.ofNanoseconds t,
      by rw [readStamp?, Form.read?_write stampForm_plain hfits]; rfl, hvalid, htime⟩ }

theorem print_lt (hl : -2 ^ 63 ≤ t) (hu' : t' < 2 ^ 63) (hlt : t < t') :
    utf8 (CivilTime.ofNanoseconds t).print < utf8 (CivilTime.ofNanoseconds t').print := by
  obtain ⟨hvalid, htime, hfits⟩ := stamp_spec hl (hlt.trans hu')
  obtain ⟨hvalid', htime', hfits'⟩ := stamp_spec (hl.trans hlt.le) hu'
  rw [CivilTime.print_eq, CivilTime.print_eq]
  exact Utf8.utf8_lt_utf8 (Form.write_lt stampForm_plain hfits hfits'
    (hvalid.parts_lt hvalid' (by rw [htime, htime']; exact hlt)))

/-- **The octets of two timestamps compare as the times.** -/
theorem print_lt_iff (hl : -2 ^ 63 ≤ t) (hu : t < 2 ^ 63) (hl' : -2 ^ 63 ≤ t') (hu' : t' < 2 ^ 63) :
    utf8 (CivilTime.ofNanoseconds t).print < utf8 (CivilTime.ofNanoseconds t').print ↔ t < t' := by
  refine ⟨fun h => ?_, print_lt hl hu'⟩
  rcases lt_trichotomy t t' with hlt | heq | hgt
  · exact hlt
  · rw [heq] at h
    exact absurd h (List.lt_irrefl _)
  · exact absurd h (List.lt_asymm (print_lt hl' hu hgt))

end

/-! ## The field of a message -/

/-- The second field of a message. -/
def timestampField? (message : Octets) : Option Octets := do
  let (fields, _) ← cutSpaces? 2 message
  fields[1]?

theorem timestampField?_message {b : Binding} {e : Envelope} {message : Octets}
    (h : message? b e = some message) : timestampField? message = some (utf8 (stamp e)) := by
  obtain ⟨l, -, rfl⟩ := Option.map_eq_some_iff.1 h
  -- The first two fields, and what follows them.
  let front := [utf8 (opening l.type), utf8 (stamp e)]
  let back := (headerFields b e l.type).drop 2
  have hfront : ∀ field ∈ front, space ∉ field := fun field hfield =>
    space_notMem_headerFields b e l.type field (List.mem_append_left back hfield)
  have hheader : utf8 (header b e l.type) = spaced front ++ spaced back := by
    rw [utf8_header, spaced, spaced, spaced, ← List.flatMap_append]
    rfl
  have hcut : cutSpaces? 2 (utf8 (header b e l.type) ++ l.payload.filter (· ≠ 0) ++ [10]) =
      some (front, spaced back ++ (l.payload.filter (· ≠ 0) ++ [10])) := by
    rw [hheader, List.append_assoc, List.append_assoc]
    exact cutSpaces?_spaced hfront _
  rw [timestampField?, hcut]
  rfl

/-- **Timestamps are exact.** The second field of a message is the date and the time of day of its
envelope to the nanosecond, in the form `YYYY-MM-DDTHH:MM:SS.nnnnnnnnnZ`, for every time that 64
bits have room for; and the octets of two such fields compare as the times of the envelopes do. -/
theorem every_timestamp_exact (b b' : Binding) (e e' : Envelope) (l l' : LogLine)
    (h : e.log = some l) (h' : e'.log = some l') :
    ∃ message message' field field', message? b e = some message ∧
      message? b' e' = some message' ∧ timestampField? message = some field ∧
      timestampField? message' = some field' ∧ Exact e.timestamp.toInt field ∧
      Exact e'.timestamp.toInt field' ∧
      (field < field' ↔ e.timestamp.toInt < e'.timestamp.toInt) := by
  obtain ⟨message, hmessage⟩ : ∃ message, message? b e = some message :=
    ⟨_, by rw [message?, h]; rfl⟩
  obtain ⟨message', hmessage'⟩ : ∃ message', message? b' e' = some message' :=
    ⟨_, by rw [message?, h']; rfl⟩
  have hl := e.timestamp.le_toInt
  have hu := e.timestamp.toInt_lt
  have hl' := e'.timestamp.le_toInt
  have hu' := e'.timestamp.toInt_lt
  exact ⟨message, message', _, _, hmessage, hmessage', timestampField?_message hmessage,
    timestampField?_message hmessage', exact_print hl hu, exact_print hl' hu',
    print_lt_iff hl hu hl' hu'⟩

/-- The least and the greatest time. -/
theorem timestamps_exact_at_both_ends :
    let least : Envelope := ⟨"app", "0", Int64.minValue, {}, some ⟨[104], .out⟩⟩
    let greatest : Envelope := ⟨"app", "0", Int64.maxValue, {}, some ⟨[105], .err⟩⟩
    let b : Binding := ⟨"app", "host", "syslog://drain"⟩
    let field := utf8 "1677-09-21T00:12:43.145224192Z".toList
    let field' := utf8 "2262-04-11T23:47:16.854775807Z".toList
    least.log = some ⟨[104], .out⟩ ∧ greatest.log = some ⟨[105], .err⟩ ∧
      ∃ message message', message? b least = some message ∧ message? b greatest = some message' ∧
        timestampField? message = some field ∧ timestampField? message' = some field' ∧
        Exact (-9223372036854775808) field ∧ Exact 9223372036854775807 field' ∧
        field < field' := by
  intro least greatest b field field'
  have hlog : least.log = some ⟨[104], .out⟩ := rfl
  have hlog' : greatest.log = some ⟨[105], .err⟩ := rfl
  obtain ⟨message, message', f, f', hmessage, hmessage', hf, hf', hexact, hexact', hiff⟩ :=
    every_timestamp_exact b b least greatest _ _ hlog hlog'
  have hstamp : utf8 (stamp least) = field := by decide +kernel
  have hstamp' : utf8 (stamp greatest) = field' := by decide +kernel
  obtain rfl : field = f :=
    Option.some.inj (hstamp ▸ (timestampField?_message hmessage).symm.trans hf)
  obtain rfl : field' = f' :=
    Option.some.inj (hstamp' ▸ (timestampField?_message hmessage').symm.trans hf')
  exact ⟨hlog, hlog', message, message', hmessage, hmessage', hf, hf', hexact, hexact',
    hiff.2 (by decide)⟩

end LogEgress.Syslog
