import LogEgress.Json.Decode
import LogEgress.Proofs.Json.Token

set_option autoImplicit false

/-! # Values in print are read again

The written form of a value is cut into the value's tokens, and from these the value is read, from
a text (`Plain.ofText_print`) as from its octets (`Plain.ofOctets_print`). The value must not have
broken parts or unreadable strings. Numbers are left out: where one ends depends on what follows it.
-/

namespace LogEgress.Json

namespace Value

/-- A value without numbers, without broken parts and with readable strings only. -/
inductive Plain : Value → Prop where
  | null : Plain .null
  | bool (b : Bool) : Plain (.bool b)
  | string (s : List Char) : Plain (.string (some s))
  | array {vs : List Value} (elements : ∀ v ∈ vs, Plain v) : Plain (.array vs)
  | object {ms : List (Option (List Char) × Value)} (keys : ∀ m ∈ ms, m.1.isSome)
      (values : ∀ m ∈ ms, Plain m.2) : Plain (.object ms)

theorem plain_ofMembers {ms : List (String × Value)} (h : ∀ m ∈ ms, m.2.Plain) :
    (Value.ofMembers ms).Plain := by
  refine .object (fun m hm => ?_) fun m hm => ?_
  · obtain ⟨m', -, rfl⟩ := List.mem_map.1 hm
    rfl
  · obtain ⟨m', hm', rfl⟩ := List.mem_map.1 hm
    exact h m' hm'

theorem plain_array_map {α : Type} {write : α → Value} (h : ∀ x, (write x).Plain) (xs : List α) :
    (Value.array (xs.map write)).Plain := by
  refine .array fun v hv => ?_
  obtain ⟨x, -, rfl⟩ := List.mem_map.1 hv
  exact h x

/-! ## Tokens -/

mutual

/-- The tokens of a value. -/
def tokens : Value → List Token
  | .null => [.null]
  | .bool b => [.bool b]
  | .number ds => [.number ds]
  | .string s => [.string s]
  | .array vs => .openBracket :: elementTokens vs ++ [.closeBracket]
  | .object ms => .openBrace :: memberTokens ms ++ [.closeBrace]
  | .broken => [.bad]

/-- The tokens of elements, a comma between neighbours. -/
def elementTokens : List Value → List Token
  | [] => []
  | [v] => v.tokens
  | v :: w :: vs => v.tokens ++ .comma :: elementTokens (w :: vs)

/-- The tokens of members, a comma between neighbours. -/
def memberTokens : List (Option (List Char) × Value) → List Token
  | [] => []
  | [(k, v)] => .string k :: .colon :: v.tokens
  | (k, v) :: m :: ms => .string k :: .colon :: v.tokens ++ .comma :: memberTokens (m :: ms)

end

/-- A value is written as its tokens, whatever follows. -/
def Lexed (v : Value) : Prop :=
  ∀ r, Token.ofText (v.print ++ r) = v.tokens ++ Token.ofText r

theorem ofText_comma (r : List Char) : Token.ofText (',' :: r) = .comma :: Token.ofText r :=
  ofText_of_lexToken rfl rfl

theorem ofText_colon (r : List Char) : Token.ofText (':' :: r) = .colon :: Token.ofText r :=
  ofText_of_lexToken rfl rfl

theorem ofText_printElements {vs : List Value} (h : ∀ v ∈ vs, Lexed v) (r : List Char) :
    Token.ofText (printElements vs ++ r) = elementTokens vs ++ Token.ofText r := by
  induction vs with
  | nil => rfl
  | cons v vs ih =>
    have hv := h v List.mem_cons_self
    cases vs with
    | nil => exact hv r
    | cons w vs =>
      have hrest := ih fun x hx => h x (List.mem_cons_of_mem v hx)
      rw [printElements, elementTokens, List.append_assoc, List.append_assoc, hv,
        List.cons_append, ofText_comma, hrest, List.cons_append]

theorem ofText_printMember {k : List Char} {v : Value} (h : Lexed v) (r : List Char) :
    Token.ofText (printMember (some k, v) ++ r) =
      .string (some k) :: .colon :: v.tokens ++ Token.ofText r := by
  rw [printMember, List.append_assoc, ofText_printString, List.cons_append, ofText_colon, h,
    List.cons_append, List.cons_append]

theorem ofText_printMembers {ms : List (Option (List Char) × Value)}
    (keys : ∀ m ∈ ms, m.1.isSome) (h : ∀ m ∈ ms, Lexed m.2) (r : List Char) :
    Token.ofText (printMembers ms ++ r) = memberTokens ms ++ Token.ofText r := by
  induction ms with
  | nil => rfl
  | cons m ms ih =>
    obtain ⟨k, v⟩ := m
    have hv : Lexed v := h (k, v) List.mem_cons_self
    obtain ⟨k, rfl⟩ := Option.isSome_iff_exists.1 (keys (k, v) List.mem_cons_self)
    cases ms with
    | nil =>
      rw [printMembers, memberTokens]
      exact ofText_printMember hv r
    | cons m ms =>
      have hrest := ih (fun x hx => keys x (List.mem_cons_of_mem _ hx))
        fun x hx => h x (List.mem_cons_of_mem _ hx)
      have hcomma : Token.ofText (',' :: printMembers (m :: ms) ++ r) =
          .comma :: (memberTokens (m :: ms) ++ Token.ofText r) := by
        rw [List.cons_append, ofText_comma, hrest]
      rw [printMembers, memberTokens, List.append_assoc, ofText_printMember hv, hcomma]
      simp only [List.cons_append, List.append_assoc]

/-- The induction is on what makes the value plain: its parts are lexed, whatever follows them. -/
theorem Plain.lexed {v : Value} (h : Plain v) : Lexed v := by
  induction h with
  | null => exact fun r => ofText_of_lexToken rfl rfl
  | bool b =>
    intro r
    cases b <;> exact ofText_of_lexToken rfl rfl
  | string s =>
    intro r
    rw [print, tokens]
    exact ofText_printString s r
  | @array vs _ ih =>
    intro r
    have hprint : (Value.array vs).print ++ r = '[' :: (printElements vs ++ ']' :: r) := by
      simp [print]
    have hopen : Token.ofText ('[' :: (printElements vs ++ ']' :: r)) =
        .openBracket :: Token.ofText (printElements vs ++ ']' :: r) :=
      ofText_of_lexToken rfl rfl
    have hclose : Token.ofText (']' :: r) = .closeBracket :: Token.ofText r :=
      ofText_of_lexToken rfl rfl
    rw [hprint, hopen, ofText_printElements ih, hclose]
    simp [tokens]
  | @object ms keys _ ih =>
    intro r
    have hprint : (Value.object ms).print ++ r = '\x7b' :: (printMembers ms ++ '\x7d' :: r) := by
      simp [print]
    have hopen : Token.ofText ('\x7b' :: (printMembers ms ++ '\x7d' :: r)) =
        .openBrace :: Token.ofText (printMembers ms ++ '\x7d' :: r) :=
      ofText_of_lexToken rfl rfl
    have hclose : Token.ofText ('\x7d' :: r) = .closeBrace :: Token.ofText r :=
      ofText_of_lexToken rfl rfl
    rw [hprint, hopen, ofText_printMembers keys ih, hclose]
    simp [tokens]

/-! ## Reading -/

/-- A value is read off its tokens, whatever follows. The nesting is not deeper than two calls for
each token. -/
def Reads (v : Value) : Prop :=
  ∀ n r, 2 * v.tokens.length ≤ n → readValue n (v.tokens ++ r) = (v, r)

/-- The first token of a value closes nothing. -/
theorem Plain.exists_tokens_eq_cons {v : Value} (h : Plain v) :
    ∃ t ts, v.tokens = t :: ts ∧ t ≠ .closeBracket := by
  cases h with
  | null => exact ⟨_, _, rfl, by decide⟩
  | bool b => exact ⟨_, _, rfl, Token.noConfusion⟩
  | string s => exact ⟨_, _, rfl, Token.noConfusion⟩
  | array elements => exact ⟨_, _, rfl, by decide⟩
  | object keys values => exact ⟨_, _, rfl, by decide⟩

theorem readValue_openBracket {n : Nat} {t : Token} (h : t ≠ .closeBracket) (ts : List Token) :
    readValue (n + 1) (.openBracket :: t :: ts) =
      (.array (readElements n (t :: ts)).1, (readElements n (t :: ts)).2) := by
  cases t
  case closeBracket => exact absurd rfl h
  all_goals rfl

theorem readValue_openBrace {n : Nat} {t : Token} (h : t ≠ .closeBrace) (ts : List Token) :
    readValue (n + 1) (.openBrace :: t :: ts) =
      (.object (readMembers n (t :: ts)).1, (readMembers n (t :: ts)).2) := by
  cases t
  case closeBrace => exact absurd rfl h
  all_goals rfl

theorem elementTokens_cons (v : Value) (vs : List Value) :
    ∃ ts, elementTokens (v :: vs) = v.tokens ++ ts := by
  cases vs with
  | nil => exact ⟨[], (List.append_nil _).symm⟩
  | cons w vs => exact ⟨_, rfl⟩

theorem memberTokens_cons (k : Option (List Char)) (v : Value)
    (ms : List (Option (List Char) × Value)) :
    ∃ ts, memberTokens ((k, v) :: ms) = .string k :: ts := by
  cases ms with
  | nil => exact ⟨_, rfl⟩
  | cons m ms => exact ⟨_, rfl⟩

theorem readElements_tokens {v : Value} {vs : List Value} (h : ∀ x ∈ v :: vs, Reads x) {n : Nat}
    {r : List Token} (hn : 2 * (elementTokens (v :: vs)).length + 1 ≤ n) :
    readElements n (elementTokens (v :: vs) ++ .closeBracket :: r) = (v :: vs, r) := by
  induction vs generalizing v n with
  | nil =>
    have hv := h v List.mem_cons_self
    obtain ⟨n, rfl⟩ : ∃ k, n = k + 1 := ⟨n - 1, by omega⟩
    rw [elementTokens] at hn ⊢
    rw [readElements, hv n _ (by omega)]
  | cons w vs ih =>
    have hv := h v List.mem_cons_self
    obtain ⟨n, rfl⟩ : ∃ k, n = k + 1 := ⟨n - 1, by omega⟩
    rw [elementTokens, List.length_append, List.length_cons] at hn
    rw [elementTokens, List.append_assoc, List.cons_append, readElements, hv n _ (by omega)]
    dsimp only
    rw [ih (fun x hx => h x (List.mem_cons_of_mem v hx)) (by omega)]

theorem readMembers_tokens {k : Option (List Char)} {v : Value}
    {ms : List (Option (List Char) × Value)} (h : ∀ m ∈ (k, v) :: ms, Reads m.2) {n : Nat}
    {r : List Token} (hn : 2 * (memberTokens ((k, v) :: ms)).length + 1 ≤ n) :
    readMembers n (memberTokens ((k, v) :: ms) ++ .closeBrace :: r) = ((k, v) :: ms, r) := by
  induction ms generalizing k v n with
  | nil =>
    have hv : Reads v := h (k, v) List.mem_cons_self
    obtain ⟨n, rfl⟩ : ∃ k, n = k + 1 := ⟨n - 1, by omega⟩
    rw [memberTokens, List.length_cons, List.length_cons] at hn
    rw [memberTokens, List.cons_append, List.cons_append, readMembers, hv n _ (by omega)]
  | cons m ms ih =>
    obtain ⟨k', v'⟩ := m
    have hv : Reads v := h (k, v) List.mem_cons_self
    obtain ⟨n, rfl⟩ : ∃ k, n = k + 1 := ⟨n - 1, by omega⟩
    rw [memberTokens, List.length_append, List.length_cons, List.length_cons,
      List.length_cons] at hn
    rw [memberTokens, List.append_assoc, List.cons_append, List.cons_append, List.cons_append,
      readMembers, hv n _ (by omega)]
    dsimp only
    rw [ih (fun x hx => h x (List.mem_cons_of_mem (k, v) hx)) (by omega)]

theorem Plain.reads {v : Value} (h : Plain v) : Reads v := by
  induction h with
  | null =>
    intro n r hn
    obtain ⟨n, rfl⟩ : ∃ k, n = k + 1 := ⟨n - 1, by simp [tokens] at hn; omega⟩
    rfl
  | bool b =>
    intro n r hn
    obtain ⟨n, rfl⟩ : ∃ k, n = k + 1 := ⟨n - 1, by simp [tokens] at hn; omega⟩
    rfl
  | string s =>
    intro n r hn
    obtain ⟨n, rfl⟩ : ∃ k, n = k + 1 := ⟨n - 1, by simp [tokens] at hn; omega⟩
    rfl
  | @array vs elements ih =>
    intro n r hn
    have hlength : (Value.array vs).tokens.length = (elementTokens vs).length + 2 := by
      simp [tokens]
    obtain ⟨n, rfl⟩ : ∃ k, n = k + 1 := ⟨n - 1, by omega⟩
    cases vs with
    | nil => rfl
    | cons v vs =>
      -- The bracket is followed by a token of the first element, so the array is not empty.
      obtain ⟨t, ts, hv, ht⟩ := (elements v List.mem_cons_self).exists_tokens_eq_cons
      obtain ⟨us, hus⟩ := elementTokens_cons v vs
      have hread := readElements_tokens (n := n) (r := r) ih (by omega)
      have htokens : (Value.array (v :: vs)).tokens ++ r =
          .openBracket :: (elementTokens (v :: vs) ++ .closeBracket :: r) := by simp [tokens]
      rw [hus, hv, List.cons_append, List.cons_append] at hread htokens
      rw [htokens, readValue_openBracket ht, hread]
  | @object ms keys values ih =>
    intro n r hn
    have hlength : (Value.object ms).tokens.length = (memberTokens ms).length + 2 := by
      simp [tokens]
    obtain ⟨n, rfl⟩ : ∃ k, n = k + 1 := ⟨n - 1, by omega⟩
    cases ms with
    | nil => rfl
    | cons m ms =>
      obtain ⟨k, v⟩ := m
      obtain ⟨us, hus⟩ := memberTokens_cons k v ms
      have hread := readMembers_tokens (n := n) (r := r) ih (by omega)
      have htokens : (Value.object ((k, v) :: ms)).tokens ++ r =
          .openBrace :: (memberTokens ((k, v) :: ms) ++ .closeBrace :: r) := by simp [tokens]
      rw [hus, List.cons_append] at hread htokens
      rw [htokens, readValue_openBrace Token.noConfusion, hread]

theorem Plain.ofTokens_tokens {v : Value} (h : Plain v) : ofTokens v.tokens = (v, true) := by
  have hread := h.reads (2 * v.tokens.length + 2) [] (by omega)
  rw [List.append_nil] at hread
  unfold ofTokens
  dsimp only
  rw [hread]
  rfl

theorem Plain.ofText_eq_tokens {v : Value} (h : Plain v) : Token.ofText v.print = v.tokens := by
  have hempty : Token.ofText [] = [] := rfl
  have hlex := h.lexed []
  rwa [List.append_nil, hempty, List.append_nil] at hlex

/-- **A value in print is read again**, and nothing is left over. -/
theorem Plain.ofText_print {v : Value} (h : Plain v) : Value.ofText v.print = (v, true) := by
  rw [Value.ofText, h.ofText_eq_tokens, h.ofTokens_tokens]

theorem Plain.ofOctets_print {v : Value} (h : Plain v) :
    Value.ofOctets (utf8 v.print) = (v, true) := by
  rw [Value.ofOctets, ofOctets_utf8, h.ofText_eq_tokens, h.ofTokens_tokens]

/-! ## Control characters -/

theorem le_of_mem_printElements {vs : List Value} (h : ∀ v ∈ vs, ∀ c ∈ v.print, 0x20 ≤ c.toNat) :
    ∀ c ∈ printElements vs, 0x20 ≤ c.toNat := by
  induction vs with
  | nil => exact fun c hc => absurd hc List.not_mem_nil
  | cons v vs ih =>
    obtain ⟨hv, hvs⟩ := List.forall_mem_cons.mp h
    cases vs with
    | nil => exact hv
    | cons w vs =>
      exact List.forall_mem_append.mpr ⟨hv, List.forall_mem_cons.mpr ⟨by decide, ih hvs⟩⟩

theorem le_of_mem_printMember {k : List Char} {v : Value} (h : ∀ c ∈ v.print, 0x20 ≤ c.toNat) :
    ∀ c ∈ printMember (some k, v), 0x20 ≤ c.toNat :=
  List.forall_mem_append.mpr ⟨fun _ => le_of_mem_printString,
    List.forall_mem_cons.mpr ⟨by decide, h⟩⟩

theorem le_of_mem_printMembers {ms : List (Option (List Char) × Value)}
    (keys : ∀ m ∈ ms, m.1.isSome) (h : ∀ m ∈ ms, ∀ c ∈ m.2.print, 0x20 ≤ c.toNat) :
    ∀ c ∈ printMembers ms, 0x20 ≤ c.toNat := by
  induction ms with
  | nil => exact fun c hc => absurd hc List.not_mem_nil
  | cons m ms ih =>
    obtain ⟨k, v⟩ := m
    obtain ⟨hk, hkeys⟩ := List.forall_mem_cons.mp keys
    obtain ⟨hv, hms⟩ := List.forall_mem_cons.mp h
    obtain ⟨k, rfl⟩ := Option.isSome_iff_exists.1 hk
    have hm := le_of_mem_printMember (k := k) hv
    cases ms with
    | nil => exact hm
    | cons m ms =>
      exact List.forall_mem_append.mpr ⟨hm, List.forall_mem_cons.mpr ⟨by decide, ih hkeys hms⟩⟩

/-- What stands in brackets or braces. -/
theorem le_of_mem_enclosed {s : List Char} {first last : Char} (hfirst : 0x20 ≤ first.toNat)
    (hlast : 0x20 ≤ last.toNat) (h : ∀ c ∈ s, 0x20 ≤ c.toNat) :
    ∀ c ∈ first :: s ++ [last], 0x20 ≤ c.toNat :=
  List.forall_mem_append.mpr ⟨List.forall_mem_cons.mpr ⟨hfirst, h⟩,
    List.forall_mem_singleton.mpr hlast⟩

/-- **A value in print has no control characters**, so it stands on one line. -/
theorem Plain.le_of_mem_print {v : Value} (h : Plain v) : ∀ c ∈ v.print, 0x20 ≤ c.toNat := by
  induction h with
  | null => exact le_of_mem_of_all (by decide)
  | bool b => exact le_of_mem_of_all (by cases b <;> decide)
  | string s => exact fun _ => le_of_mem_printString
  | array _ ih =>
    exact le_of_mem_enclosed (by decide) (by decide) (le_of_mem_printElements ih)
  | object keys _ ih =>
    exact le_of_mem_enclosed (by decide) (by decide) (le_of_mem_printMembers keys ih)

end Value

/-! ## Typed values -/

theorem readLast_end {α : Type} (read : Reader α) (v : Value) : readLast read (v, true) = read v := by
  show (read v >>= fun x => if true = true then .ok x else .error .malformed) = read v
  cases read v <;> rfl

/-- What is read from a value in print is what is read from the value. -/
theorem decode_print {α : Type} (read : Reader α) {v : Value} (h : v.Plain) :
    decode read v.print = read v := by
  rw [decode, h.ofText_print, readLast_end]

theorem decodeOctets_print {α : Type} (read : Reader α) {v : Value} (h : v.Plain) :
    decodeOctets read (utf8 v.print) = read v := by
  rw [decodeOctets, h.ofOctets_print, readLast_end]

/-- Where elements are read from what is written for them, so is their list. -/
theorem Reader.list_map {α β : Type} {read : Reader β} {write : α → Value} {value : α → β}
    (h : ∀ x, read (write x) = .ok (value x)) (xs : List α) :
    Reader.list read (.array (xs.map write)) = .ok (xs.map value) := by
  show (xs.map write).mapM read = _
  induction xs with
  | nil => rfl
  | cons x xs ih =>
    rw [List.map_cons, List.mapM_cons, h, ih]
    rfl

end LogEgress.Json
