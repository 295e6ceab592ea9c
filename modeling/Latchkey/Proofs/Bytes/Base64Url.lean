import Latchkey.Bytes.Base64Url
import Latchkey.Proofs.Bytes.Text

set_option autoImplicit false

/-! # Base64 reads back what it writes

Every byte string is what the text that writes it is read as (`Base64Url.decodeText_encode`), and no
other text is read as it: reading refuses padding, unused bits that are set, and everything else
that writing does not produce (`Base64Url.decodeText_eq_ok_iff`). -/

namespace Latchkey.Base64Url

/-! ## Symbols -/

/-- The byte of a symbol. -/
def digit (n : Nat) : UInt8 :=
  (symbol n).val.toUInt8

theorem sextet?_digit {n : Nat} (small : n < 64) : sextet? (digit n) = some n := by
  revert n
  decide

theorem digit_ne_pad {n : Nat} (small : n < 64) : digit n ≠ pad := by
  revert n
  decide

theorem utf8Size_symbol {n : Nat} (small : n < 64) : (symbol n).utf8Size = 1 := by
  revert n
  decide

theorem symbol_ne_dot {n : Nat} (small : n < 64) : symbol n ≠ '.' := by
  revert n
  decide

/-- The six-bit numbers that a byte string is cut into. -/
def sextets : Bytes → List Nat
  | a :: b :: c :: rest =>
    let n := 65536 * a.toNat + 256 * b.toNat + c.toNat
    n / 262144 :: n / 4096 % 64 :: n / 64 % 64 :: n % 64 :: sextets rest
  | [a, b] =>
    let n := 1024 * a.toNat + 4 * b.toNat
    [n / 4096, n / 64 % 64, n % 64]
  | [a] =>
    let n := 16 * a.toNat
    [n / 64, n % 64]
  | [] => []

theorem symbols_eq_map (bytes : Bytes) : symbols bytes = (sextets bytes).map symbol := by
  induction bytes using symbols.induct with
  | case1 a b c rest ih => simp [symbols, sextets, ih]
  | case2 a b => rfl
  | case3 a => rfl
  | case4 => rfl

theorem lt_of_mem_sextets (bytes : Bytes) : ∀ n ∈ sextets bytes, n < 64 := by
  induction bytes using sextets.induct with
  | case1 a b c rest ih =>
    have ha := a.toNat_lt
    have hb := b.toNat_lt
    have hc := c.toNat_lt
    simp only [sextets, List.forall_mem_cons]
    exact ⟨by omega, by omega, by omega, by omega, ih⟩
  | case2 a b =>
    have ha := a.toNat_lt
    have hb := b.toNat_lt
    simp only [sextets, List.forall_mem_cons]
    exact ⟨by omega, by omega, by omega, by simp⟩
  | case3 a =>
    have ha := a.toNat_lt
    simp only [sextets, List.forall_mem_cons]
    exact ⟨by omega, by omega, by simp⟩
  | case4 => simp [sextets]

theorem length_sextets_mod (bytes : Bytes) : (sextets bytes).length % 4 ≠ 1 := by
  induction bytes using sextets.induct with
  | case1 a b c rest ih =>
    simp only [sextets, List.length_cons]
    omega
  | case2 a b => simp [sextets]
  | case3 a => simp [sextets]
  | case4 => simp [sextets]

theorem ofText_encode (bytes : Bytes) :
    Bytes.ofText (encode bytes) = (sextets bytes).map digit := by
  rw [encode, symbols_eq_map, Bytes.ofText_ofList_of_ascii]
  · simp [digit]
  · intro c mem
    obtain ⟨n, among, rfl⟩ := List.mem_map.1 mem
    exact utf8Size_symbol (lt_of_mem_sextets bytes n among)

/-- There is no dot among the symbols. -/
theorem dot_not_mem_encode (bytes : Bytes) : '.' ∉ (encode bytes).toList := by
  rw [encode, String.toList_ofList, symbols_eq_map]
  intro mem
  obtain ⟨n, among, same⟩ := List.mem_map.1 mem
  exact symbol_ne_dot (lt_of_mem_sextets bytes n among) same

/-! ## Reading -/

theorem sextetAt_digit {n : Nat} (small : n < 64) (offset : Nat) :
    sextetAt offset (digit n) = .ok n := by
  rw [sextetAt, sextet?_digit small]

theorem readLastGroup_digits {numbers : List Nat} (small : ∀ n ∈ numbers, n < 64)
    (start index : Nat) :
    readLastGroup start (numbers.map digit) index none = .ok (numbers, false) := by
  induction numbers generalizing index with
  | nil => rfl
  | cons n rest ih =>
    have ⟨first, others⟩ := List.forall_mem_cons.1 small
    rw [List.map_cons, readLastGroup, if_neg (digit_ne_pad first)]
    simp only [sextetAt_digit first, ih others]
    rfl

/-- The last group without its failures. -/
theorem decodeLastGroup_digits {numbers : List Nat} {bytes : Bytes}
    (small : ∀ n ∈ numbers, n < 64) (start : Nat)
    (holds : (∃ p q, numbers = [p, q] ∧ q % 16 = 0 ∧ bytes = [UInt8.ofNat (4 * p + q / 16)])
      ∨ (∃ p q r, numbers = [p, q, r] ∧ r % 4 = 0
        ∧ bytes = [UInt8.ofNat (4 * p + q / 16), UInt8.ofNat (16 * q + r / 4)])
      ∨ ∃ p q r s, numbers = [p, q, r, s]
        ∧ bytes = [UInt8.ofNat (4 * p + q / 16), UInt8.ofNat (16 * q + r / 4),
            UInt8.ofNat (64 * r + s)]) :
    decodeLastGroup start (numbers.map digit) = .ok bytes := by
  rw [decodeLastGroup, readLastGroup_digits small]
  rcases holds with ⟨p, q, rfl, unused, rfl⟩ | ⟨p, q, r, rfl, unused, rfl⟩ | ⟨p, q, r, s, rfl, rfl⟩
  · exact if_pos unused
  · exact if_pos unused
  · rfl

/-- The bytes are in the numbers that they are cut into. -/
theorem byte_of_sextets (a b c : UInt8) :
    let n := 65536 * a.toNat + 256 * b.toNat + c.toNat
    UInt8.ofNat (4 * (n / 262144) + n / 4096 % 64 / 16) = a
      ∧ UInt8.ofNat (16 * (n / 4096 % 64) + n / 64 % 64 / 4) = b
      ∧ UInt8.ofNat (64 * (n / 64 % 64) + n % 64) = c := by
  have ha := a.toNat_lt
  have hb := b.toNat_lt
  have hc := c.toNat_lt
  simp only [← UInt8.toNat_inj, UInt8.toNat_ofNat']
  refine ⟨by omega, by omega, by omega⟩

theorem decodeGroups_sextets (bytes : Bytes) (start : Nat) :
    decodeGroups start ((sextets bytes).map digit) = .ok bytes := by
  have small := lt_of_mem_sextets bytes
  induction bytes using sextets.induct generalizing start with
  | case1 a b c rest ih =>
    obtain ⟨first, second, third⟩ := byte_of_sextets a b c
    have more := ih (start + 4) (lt_of_mem_sextets rest)
    simp only [sextets] at small ⊢
    -- Whether this is the last group depends on whether anything follows it.
    cases tail : sextets rest with
    | nil =>
      rw [tail] at small more
      obtain rfl : [] = rest := Except.ok.inj more
      exact decodeLastGroup_digits small start
        (.inr (.inr ⟨_, _, _, _, rfl, by rw [first, second, third]⟩))
    | cons e others =>
      rw [tail, List.map_cons] at more
      obtain ⟨p, q, r, s, -⟩ := by simpa only [List.forall_mem_cons] using small
      simp only [List.map_cons, decodeGroups, sextetAt_digit p, sextetAt_digit q, sextetAt_digit r,
        sextetAt_digit s, more, bind, Except.bind, pure, Except.pure, first, second, third]
  | case2 a b =>
    have ha := a.toNat_lt
    have hb := b.toNat_lt
    refine decodeLastGroup_digits small start (.inr (.inl ⟨_, _, _, rfl, by omega, ?_⟩))
    simp only [List.cons.injEq, ← UInt8.toNat_inj, UInt8.toNat_ofNat', and_true]
    exact ⟨by omega, by omega⟩
  | case3 a =>
    have ha := a.toNat_lt
    refine decodeLastGroup_digits small start (.inl ⟨_, _, rfl, by omega, ?_⟩)
    simp only [List.cons.injEq, ← UInt8.toNat_inj, UInt8.toNat_ofNat', and_true]
    omega
  | case4 => rfl

/-- Reading gives back what was written. -/
theorem decodeText_encode (bytes : Bytes) : decodeText (encode bytes) = .ok bytes := by
  rw [decodeText, ofText_encode, decode]
  cases last : ((sextets bytes).map digit).getLast? with
  | none =>
    have empty := decodeGroups_sextets bytes 0
    rw [List.getLast?_eq_none_iff.1 last] at empty
    exact empty
  | some b =>
    have whole := length_sextets_mod bytes
    simp [whole, decodeGroups_sextets]

/-! ## Strictness -/

/-- A byte that has a number is the symbol of that number. -/
theorem digit_of_sextet? {b : UInt8} {n : Nat} (read : sextet? b = some n) :
    n < 64 ∧ digit n = b := by
  have all : ∀ b : Fin 256, ∀ n ∈ sextet? (UInt8.ofFin b), n < 64 ∧ digit n = UInt8.ofFin b := by
    decide +kernel
  simpa using all b.toFin n (by simpa using read)

theorem digit_of_sextetAt {b : UInt8} {n offset : Nat} (read : sextetAt offset b = .ok n) :
    n < 64 ∧ digit n = b := by
  unfold sextetAt at read
  split at read
  · rename_i m found
    obtain rfl := Except.ok.inj read
    exact digit_of_sextet? found
  · simp at read

/-- Once there is padding, it is reported. -/
theorem padded_of_readLastGroup {start index offset : Nat} {text : Bytes} {numbers : List Nat}
    {padded : Bool} (read : readLastGroup start text index (some offset) = .ok (numbers, padded)) :
    padded = true := by
  induction text generalizing index with
  | nil => exact (Prod.mk.inj (Except.ok.inj read)).2.symm
  | cons b rest ih =>
    unfold readLastGroup at read
    split at read
    · split at read
      · simp at read
      · exact ih read
    · simp at read

theorem eq_digits_of_readLastGroup {start index : Nat} {text : Bytes} {numbers : List Nat}
    (read : readLastGroup start text index none = .ok (numbers, false)) :
    text = numbers.map digit ∧ ∀ n ∈ numbers, n < 64 := by
  induction text generalizing index numbers with
  | nil =>
    obtain rfl : [] = numbers := (Prod.mk.inj (Except.ok.inj read)).1
    simp
  | cons b rest ih =>
    unfold readLastGroup at read
    split at read
    · split at read
      · simp at read
      · exact absurd (padded_of_readLastGroup read) (by simp)
    · cases first : sextetAt (start + index) b with
      | error e => simp [first, bind, Except.bind] at read
      | ok n =>
        cases others : readLastGroup start rest (index + 1) none with
        | error e => simp [first, others, bind, Except.bind] at read
        | ok found =>
          obtain ⟨more, padded⟩ := found
          simp only [first, others, bind, Except.bind, pure, Except.pure, Except.ok.injEq,
            Prod.mk.injEq] at read
          obtain ⟨rfl, rfl⟩ := read
          obtain ⟨same, small⟩ := ih others
          obtain ⟨less, rfl⟩ := digit_of_sextetAt first
          exact ⟨by rw [same, List.map_cons], List.forall_mem_cons.2 ⟨less, small⟩⟩

/-- The numbers are in the bytes that they are joined to. -/
theorem sextets_of_numbers {p q r s : Nat} (hp : p < 64) (hq : q < 64) (hr : r < 64) (hs : s < 64)
    (rest : Bytes) :
    sextets (UInt8.ofNat (4 * p + q / 16) :: UInt8.ofNat (16 * q + r / 4)
        :: UInt8.ofNat (64 * r + s) :: rest)
      = p :: q :: r :: s :: sextets rest := by
  simp only [sextets, UInt8.toNat_ofNat', List.cons.injEq, and_true]
  refine ⟨by omega, by omega, by omega, by omega⟩

theorem eq_digits_of_decodeLastGroup {start : Nat} {text bytes : Bytes} (short : text.length ≤ 4)
    (read : decodeLastGroup start text = .ok bytes) : text = (sextets bytes).map digit := by
  unfold decodeLastGroup at read
  cases group : readLastGroup start text 0 none with
  | error e => simp [group, bind, Except.bind] at read
  | ok found =>
    obtain ⟨numbers, padded⟩ := found
    simp only [group, bind, Except.bind] at read
    cases padded with
    | true => simp only [if_true] at read; split at read <;> simp at read
    | false =>
      obtain ⟨rfl, small⟩ := eq_digits_of_readLastGroup group
      simp only [Bool.false_eq_true, if_false] at read
      split at read
      · obtain rfl := Except.ok.inj read
        rfl
      · simp at read
      · rename_i p q
        obtain ⟨hp, hq, -⟩ := by simpa only [List.forall_mem_cons] using small
        split at read
        · obtain rfl := Except.ok.inj read
          simp only [sextets, UInt8.toNat_ofNat']
          congr 1
          simp only [List.cons.injEq, and_true]
          exact ⟨by omega, by omega⟩
        · simp at read
      · rename_i p q r
        obtain ⟨hp, hq, hr, -⟩ := by simpa only [List.forall_mem_cons] using small
        split at read
        · obtain rfl := Except.ok.inj read
          simp only [sextets, UInt8.toNat_ofNat']
          congr 1
          simp only [List.cons.injEq, and_true]
          exact ⟨by omega, by omega, by omega⟩
        · simp at read
      · rename_i p q r s more
        obtain ⟨hp, hq, hr, hs, -⟩ := by simpa only [List.forall_mem_cons] using small
        obtain rfl : more = [] := List.eq_nil_of_length_eq_zero (by
          simp only [List.length_map, List.length_cons] at short
          omega)
        obtain rfl := Except.ok.inj read
        rw [sextets_of_numbers hp hq hr hs]
        rfl

theorem eq_digits_of_decodeGroups {start : Nat} {text bytes : Bytes}
    (read : decodeGroups start text = .ok bytes) : text = (sextets bytes).map digit := by
  induction start, text using decodeGroups.induct generalizing bytes with
  | case1 start a b c d e rest ih =>
    simp only [decodeGroups, bind, Except.bind, pure, Except.pure] at read
    -- Each of the four symbols has a number, and so have the groups behind them.
    split at read
    · simp at read
    rename_i p first
    split at read
    · simp at read
    rename_i q second
    split at read
    · simp at read
    rename_i r third
    split at read
    · simp at read
    rename_i s fourth
    split at read
    · simp at read
    rename_i more others
    obtain rfl := Except.ok.inj read
    obtain ⟨hp, rfl⟩ := digit_of_sextetAt first
    obtain ⟨hq, rfl⟩ := digit_of_sextetAt second
    obtain ⟨hr, rfl⟩ := digit_of_sextetAt third
    obtain ⟨hs, rfl⟩ := digit_of_sextetAt fourth
    rw [sextets_of_numbers hp hq hr hs, ih others]
    rfl
  | case2 start text short =>
    rw [decodeGroups.eq_2 start text short] at read
    refine eq_digits_of_decodeLastGroup ?_ read
    rcases text with _ | ⟨a, _ | ⟨b, _ | ⟨c, _ | ⟨d, _ | ⟨e, rest⟩⟩⟩⟩⟩
    all_goals first
      | exact absurd rfl (short a b c d e rest)
      | simp

/-- Reading accepts exactly what writing produces. -/
theorem decodeText_eq_ok_iff {text : String} {bytes : Bytes} :
    decodeText text = .ok bytes ↔ text = encode bytes := by
  refine ⟨fun read => Bytes.ofText_injective ?_, fun same => same ▸ decodeText_encode bytes⟩
  rw [ofText_encode]
  unfold decodeText decode at read
  split at read
  · rename_i none
    obtain rfl := Except.ok.inj read
    exact List.getLast?_eq_none_iff.1 none
  · split at read
    · simp at read
    · exact eq_digits_of_decodeGroups read

@[simp] theorem encode_inj {a b : Bytes} : encode a = encode b ↔ a = b := by
  rw [← decodeText_eq_ok_iff, decodeText_encode, Except.ok.injEq]

/-- A text is strict base64, or reading it fails. -/
theorem eq_encode_or (text : String) :
    (∃ bytes, text = encode bytes)
      ∨ (∃ cause, decodeText text = .error cause) ∧ ∀ bytes, text ≠ encode bytes := by
  cases read : decodeText text with
  | ok bytes => exact .inl ⟨bytes, decodeText_eq_ok_iff.1 read⟩
  | error cause =>
    refine .inr ⟨⟨cause, rfl⟩, fun bytes same => ?_⟩
    simp [decodeText_eq_ok_iff.2 same] at read

end Latchkey.Base64Url
