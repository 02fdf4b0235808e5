/-
ChatModeration.Proofs.AsciiHosts — hosts are in ASCII.

A link may be written in any letters, and its host is in ASCII all the same:
addresses are written in digits, an opaque host with percent signs, and a label
beyond ASCII is encoded.  One lemma for each writer, from the digits upwards.

The main statement is `isAscii_of_host?`; with it small letters are all that
the ASCII ones are, so that a host in small letters stays as it is
(`toLower_idem_of_host?`).
-/
import ChatModeration.Proofs.AsciiNames

namespace ChatModeration

/-! ## § Texts in ASCII -/

namespace Text

variable {a b : Text}

@[simp] theorem isAscii_append : isAscii (a ++ b) = (isAscii a && isAscii b) := List.all_append

theorem ofNat_lt {n : Nat} (h : n < 0x80) : UInt16.ofNat n < 0x80 := by
  rw [UInt16.lt_iff_toNat_lt, UInt16.toNat_ofNat_of_lt' (Nat.lt_trans h (by decide))]
  exact h

theorem isAscii_ofString {s : String} (h : ∀ c ∈ s.toList, c.toNat < 0x80) :
    isAscii (ofString s) = true := by
  rw [isAscii_iff]
  intro u hu
  obtain ⟨c, hc, huc⟩ := List.mem_flatMap.mp hu
  have hlt := h c hc
  rw [ofChar, ofCodePoint, if_pos (by omega), List.mem_singleton] at huc
  exact huc ▸ ofNat_lt hlt

theorem isAscii_ofNats {cs : List Nat} (h : ∀ c ∈ cs, c < 0x80) :
    isAscii (cs.map UInt16.ofNat) = true := by
  rw [isAscii_iff]
  intro u hu
  obtain ⟨c, hc, rfl⟩ := List.mem_map.mp hu
  exact ofNat_lt (h c hc)

theorem isAscii_join {sep : Text} (hsep : isAscii sep = true) {parts : List Text}
    (h : ∀ part ∈ parts, isAscii part = true) : isAscii (join sep parts) = true := by
  induction parts with
  | nil => rfl
  | cons part rest ih =>
    obtain ⟨hpart, hrest⟩ := List.forall_mem_cons.mp h
    cases rest with
    | nil => simpa [join] using hpart
    | cons next more =>
      show isAscii (List.intercalate sep (part :: next :: more)) = true
      rw [List.intercalate_cons_cons, isAscii_append, isAscii_append, hpart, hsep]
      exact ih hrest

/-- Digits of a base up to sixteen. -/
theorem isAscii_toDigits {base : Nat} (hone : 1 < base) (hsixteen : base ≤ 16) (n : Nat) :
    isAscii (ofString (String.ofList (Nat.toDigits base n))) = true := by
  refine isAscii_ofString fun c hc => ?_
  rw [String.toList_ofList] at hc
  have hdigit : ∀ d < 16, (Nat.digitChar d).toNat < 0x80 := by decide
  induction n using Nat.strongRecOn with
  | _ n ih =>
    rw [Nat.toDigits_eq_if hone] at hc
    split at hc
    · next hlt =>
      rw [List.mem_singleton] at hc
      exact hc ▸ hdigit n (by omega)
    · next hge =>
      rcases List.mem_append.mp hc with hc | hc
      · exact ih (n / base) (Nat.div_lt_self (by omega) hone) hc
      · have hmod : n % base < base := Nat.mod_lt n (by omega)
        rw [List.mem_singleton] at hc
        exact hc ▸ hdigit (n % base) (by omega)

end Text

namespace Url

/-! ## § Addresses and opaque hosts -/

theorem Ipv4.isAscii_write (address : Nat) : (Ipv4.write address).isAscii = true := by
  refine Text.isAscii_join rfl fun part hpart => ?_
  obtain ⟨k, -, rfl⟩ := List.mem_map.mp hpart
  exact Text.isAscii_toDigits (by decide) (by decide) _

theorem Ipv6.isAscii_writePieces (pieces : List Nat) : (Ipv6.writePieces pieces).isAscii = true := by
  refine Text.isAscii_join rfl fun part hpart => ?_
  obtain ⟨p, -, rfl⟩ := List.mem_map.mp hpart
  exact Text.isAscii_toDigits (by decide) (by decide) p

theorem Ipv6.isAscii_write (pieces : List Nat) : (Ipv6.write pieces).isAscii = true := by
  unfold Ipv6.write
  simp only
  split
  · exact Ipv6.isAscii_writePieces pieces
  · simp only [Text.isAscii_append, Ipv6.isAscii_writePieces, Bool.and_true, Bool.true_and]
    rfl

/-- All bytes are looked at. -/
theorem isAscii_percentByte (b : UInt8) : (percentByte b).isAscii = true := by
  have hall : ((List.range 256).all fun n => (percentByte (UInt8.ofNat n)).isAscii) = true := by
    decide +kernel
  simpa using List.all_eq_true.mp hall b.toNat (List.mem_range.mpr b.toNat_lt)

theorem isAscii_percentEncode (hidden : CodeUnit → Bool) (t : Text) :
    (percentEncode hidden t).isAscii = true := by
  rw [Text.isAscii_iff]
  intro u hu
  obtain ⟨b, -, hub⟩ := List.mem_flatMap.mp hu
  split at hub
  · next hvisible =>
    simp only [Bool.and_eq_true, decide_eq_true_eq] at hvisible
    have hle : b.toNat ≤ 0x7E := UInt8.le_iff_toNat_le.mp hvisible.1.2
    rw [List.mem_singleton] at hub
    rw [hub, UInt16.lt_iff_toNat_lt, UInt8.toNat_toUInt16]
    exact Nat.lt_succ_of_le (Nat.le_trans hle (by decide))
  · exact Text.isAscii_iff.mp (isAscii_percentByte b) u hub

/-! ## § Encoded labels -/

namespace Punycode

theorem digitCode_lt {d : Nat} (h : d < 36) : digitCode d < 0x80 := by
  unfold digitCode
  split <;> omega

theorem writeNumber_lt (bias position number : Nat) :
    ∀ c ∈ writeNumber bias position number, c < 0x80 := by
  induction position, number using writeNumber.induct bias with
  | case1 position number t hlt =>
    have hle : t ≤ 26 := threshold_le position bias
    intro c hc
    rw [writeNumber, if_pos hlt, List.mem_singleton] at hc
    exact hc ▸ digitCode_lt (by omega)
  | case2 position number t hge ih =>
    have hle : t ≤ 26 := threshold_le position bias
    have hmod : (number - t) % (36 - t) < 36 - t := Nat.mod_lt _ (by omega)
    have hdigit : t + (number - t) % (36 - t) < 36 := by omega
    intro c hc
    rw [writeNumber, if_neg hge] at hc
    rcases List.mem_cons.mp hc with rfl | hc
    · exact digitCode_lt hdigit
    · exact ih c hc

/-- What has been written is in ASCII. -/
def Progress.Ascii (p : Progress) : Prop := ∀ digits ∈ p.numbers, ∀ c ∈ digits, c < 0x80

variable {p q : Progress}

theorem Progress.Ascii.step {basic m c : Nat} (hp : p.Ascii)
    (hstep : writeStep? basic m p c = some q) : q.Ascii := by
  unfold writeStep? at hstep
  split at hstep
  · split at hstep
    · cases hstep
    · obtain rfl := Option.some.inj hstep
      exact hp
  · split at hstep
    · obtain rfl := Option.some.inj hstep
      exact List.forall_mem_cons.mpr ⟨writeNumber_lt _ _ _, hp⟩
    · obtain rfl := Option.some.inj hstep
      exact hp

theorem Progress.Ascii.steps {basic m : Nat} {label : List Nat} (hp : p.Ascii)
    (hsteps : label.foldlM (writeStep? basic m) p = some q) : q.Ascii := by
  induction label generalizing p with
  | nil =>
    obtain rfl := Option.some.inj hsteps
    exact hp
  | cons c rest ih =>
    rw [List.foldlM_cons] at hsteps
    obtain ⟨next, hnext, hrest⟩ := Option.bind_eq_some_iff.mp hsteps
    exact ih (hp.step hnext) hrest

theorem Progress.Ascii.writeAll? {label : List Nat} {basic next : Nat} {others : List Nat}
    (hp : p.Ascii) (hall : writeAll? label basic others next p = some q) : q.Ascii := by
  induction others generalizing p next with
  | nil =>
    obtain rfl := Option.some.inj hall
    exact hp
  | cons m more ih =>
    rw [Punycode.writeAll?] at hall
    split at hall
    · cases hall
    · obtain ⟨inserted, hinserted, hmore⟩ := Option.bind_eq_some_iff.mp hall
      have hnow : inserted.Ascii :=
        Progress.Ascii.steps (p := { p with delta := p.delta + (m - next) * (p.count + 1) }) hp
          hinserted
      exact ih (p := { inserted with delta := inserted.delta + 1 }) hnow hmore

/-- The ASCII form of a label is in ASCII. -/
theorem write?_lt {label code : List Nat} (h : write? label = some code) :
    ∀ c ∈ code, c < 0x80 := by
  obtain ⟨p, hp, rfl⟩ := Option.map_eq_some_iff.mp h
  have hascii : p.Ascii :=
    Progress.Ascii.writeAll? (fun digits hdigits => absurd hdigits List.not_mem_nil) hp
  intro c hc
  rcases List.mem_append.mp hc with hc | hc
  · rcases List.mem_append.mp hc with hc | hc
    · simpa using (List.mem_filter.mp hc).2
    · split at hc
      · cases hc
      · rw [List.mem_singleton] at hc
        omega
  · obtain ⟨digits, hdigits, hc⟩ := List.mem_flatten.mp hc
    exact hascii digits (List.mem_reverse.mp hdigits) c hc

end Punycode

namespace Domain

theorem labelToAscii?_lt {label code : List Nat} (h : labelToAscii? label = some code) :
    ∀ c ∈ code, c < 0x80 := by
  unfold labelToAscii? at h
  split at h
  · split at h
    · next hvalid =>
      obtain rfl := Option.some.inj h
      simpa using (Bool.and_eq_true_iff.mp hvalid).1
    · cases h
  · split at h
    · next hall =>
      obtain rfl := Option.some.inj h
      simpa using hall
    · split at h
      · obtain ⟨written, hwritten, rfl⟩ := Option.map_eq_some_iff.mp h
        intro c hc
        rcases List.mem_append.mp hc with hc | hc
        · exact (show ∀ c ∈ encodedMark, c < 0x80 by decide) c hc
        · exact Punycode.write?_lt hwritten c hc
      · cases h

theorem mapM_labelToAscii?_lt {labels codes : List (List Nat)}
    (h : labels.mapM labelToAscii? = some codes) : ∀ code ∈ codes, ∀ c ∈ code, c < 0x80 := by
  induction labels generalizing codes with
  | nil =>
    obtain rfl := Option.some.inj h
    simp
  | cons label rest ih =>
    rw [List.mapM_cons] at h
    obtain ⟨code, hcode, h⟩ := Option.bind_eq_some_iff.mp h
    obtain ⟨more, hmore, h⟩ := Option.bind_eq_some_iff.mp h
    obtain rfl := Option.some.inj h
    exact List.forall_mem_cons.mpr ⟨labelToAscii?_lt hcode, ih hmore⟩

theorem isAscii_toAscii? {cs : List Nat} {name : Text} (h : toAscii? cs = some name) :
    name.isAscii = true := by
  obtain ⟨mapped, -, hlabels⟩ := Option.bind_eq_some_iff.mp h
  obtain ⟨labels, hall, hjoin⟩ := Option.bind_eq_some_iff.mp hlabels
  obtain rfl := Option.some.inj hjoin
  refine Text.isAscii_join rfl fun part hpart => ?_
  obtain ⟨code, hcode, rfl⟩ := List.mem_map.mp hpart
  exact Text.isAscii_ofNats (mapM_labelToAscii?_lt hall code hcode)

end Domain

/-! ## § Hosts -/

theorem isAscii_domain? {cs : List Nat} {host : Text} (h : domain? cs = some host) :
    host.isAscii = true := by
  unfold domain? at h
  simp only at h
  split at h
  · cases h
  · next name hname =>
    split at h
    · cases h
    · split at h
      · obtain ⟨address, -, rfl⟩ := Option.map_eq_some_iff.mp h
        exact Ipv4.isAscii_write address
      · obtain rfl := Option.some.inj h
        exact Domain.isAscii_toAscii? hname

theorem isAscii_readHost? {web : Bool} {t host : Text} (h : readHost? web t = some host) :
    host.isAscii = true := by
  unfold readHost? at h
  split at h
  · split at h
    · obtain ⟨pieces, -, rfl⟩ := Option.map_eq_some_iff.mp h
      rw [List.cons_append, ← List.singleton_append, Text.isAscii_append, Text.isAscii_append,
        Ipv6.isAscii_write]
      rfl
    · cases h
  · split at h
    · exact isAscii_domain? h
    · split at h
      · cases h
      · obtain rfl := Option.some.inj h
        exact isAscii_percentEncode _ t

theorem isAscii_authorityHost? {web : Bool} {authority host : Text}
    (h : authorityHost? web authority = some host) : host.isAscii = true := by
  have hwritten (t : Text) (h : (if t.isEmpty then some [] else readHost? web t) = some host) :
      host.isAscii = true := by
    split at h
    · obtain rfl := Option.some.inj h
      rfl
    · exact isAscii_readHost? h
  simp only [authorityHost?, Option.ite_none_left_eq_some] at h
  exact hwritten _ h.2.2

theorem isAscii_fileHost? {t host : Text} (h : fileHost? t = some host) : host.isAscii = true := by
  unfold fileHost? at h
  split at h
  · split at h
    · simp only at h
      split at h
      · obtain rfl := Option.some.inj h
        rfl
      · obtain ⟨read, hread, rfl⟩ := Option.map_eq_some_iff.mp h
        split
        · rfl
        · exact isAscii_readHost? hread
    · obtain rfl := Option.some.inj h
      rfl
  · obtain rfl := Option.some.inj h
    rfl

/-- **Every host is in ASCII**, whatever the link is written in. -/
theorem isAscii_of_host? {link host : Text} (h : host? link = some host) :
    host.isAscii = true := by
  obtain ⟨⟨scheme, read⟩, hread, rfl⟩ := Option.map_eq_some_iff.mp h
  unfold schemeAndHost? at hread
  split at hread
  · cases hread
  · simp only at hread
    obtain ⟨found, hfound, heq⟩ := Option.map_eq_some_iff.mp hread
    obtain ⟨rfl, rfl⟩ := Prod.mk.inj heq
    split at hfound
    · exact isAscii_fileHost? hfound
    · split at hfound
      · exact isAscii_authorityHost? hfound
      · split at hfound
        · exact isAscii_authorityHost? hfound
        · obtain rfl := Option.some.inj hfound
          rfl

/-- The host of a link in small letters has no other letters. -/
theorem toLower_idem_of_host? {link host : Text} (h : host? link = some host) :
    host.toLower.toLower = host.toLower := by
  have hascii := isAscii_of_host? h
  rw [Text.toLower_of_isAscii hascii, Text.toLower_of_isAscii (Text.isAscii_asciiLower hascii),
    Text.asciiLower_idem]

end Url

end ChatModeration
