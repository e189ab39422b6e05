import SessionTokens.Proofs.Json.Number
import SessionTokens.Proofs.Outcome
import SessionTokens.Proofs.Text.Blank
import SessionTokens.Proofs.Text.Percent
import SessionTokens.Proofs.Text.Split
import SessionTokens.Proofs.Token.Alphabet
import SessionTokens.Store.Redis

/-!
# Connections carry the credentials

A plain server address is read as it is written, and password and database are
put into it.  The password is percent-encoded all but its own percent signs, so
that a password with an escape in it is read back as another one.
-/

namespace SessionTokens

namespace Address

variable {char : Char} {scheme : String} {host front back : List Char} {port : Option Nat}

/-! ## Characters -/

theorem isHostChar_iff : isHostChar char = true ↔
    97 ≤ char.toNat ∧ char.toNat ≤ 122 ∨ 48 ≤ char.toNat ∧ char.toNat ≤ 57 ∨
      char.toNat = 45 ∨ char.toNat = 46 := by
  have lower : char.isLower = true ↔ 97 ≤ char.toNat ∧ char.toNat ≤ 122 :=
    (Bool.and_eq_true _ _).to_iff.trans (and_congr decide_eq_true_iff decide_eq_true_iff)
  have code {other : Char} : char = other ↔ char.toNat = other.toNat := Char.toNat_inj.symm
  have digit : char.isDigit = true ↔ 48 ≤ char.toNat ∧ char.toNat ≤ 57 := Char.isDigit_iff_toNat
  have point : '.'.toNat = 46 := rfl
  have dash : '-'.toNat = 45 := rfl
  simp only [isHostChar, Bool.or_eq_true, decide_eq_true_eq, lower, digit, code, point, dash]
  omega

theorem isDigit_iff : Decimal.isDigit char = true ↔ 48 ≤ char.toNat ∧ char.toNat ≤ 57 := by
  rw [Decimal.isDigit, decide_eq_true_eq, Char.le_def, Char.le_def]
  rfl

theorem PortText.bounds (written : PortText port back) :
    ∀ char ∈ back, 48 ≤ char.toNat ∧ char.toNat ≤ 58 := by
  cases written with
  | absent => nofun
  | digits _ digits _ =>
      rintro char inside
      rcases List.mem_cons.mp inside with rfl | inside
      · decide
      · have bounds := isDigit_iff.mp (digits char inside)
        omega

/-- The characters of a host and a port are none that mark a part of an address. -/
theorem not_mem_server (chars : ∀ char ∈ host, isHostChar char = true)
    (written : PortText port back) (mark : Char)
    (outside : mark.toNat < 45 ∨ mark.toNat = 47 ∨ mark.toNat = 63 ∨ mark.toNat = 64) :
    mark ∉ host ++ back := by
  intro inside
  rcases List.mem_append.mp inside with inside | inside
  · have bounds := isHostChar_iff.mp (chars mark inside)
    omega
  · have bounds := written.bounds mark inside
    omega

theorem isGraphic_server (chars : ∀ char ∈ host, isHostChar char = true)
    (written : PortText port back) : ∀ char ∈ host ++ back, Text.isGraphic char = true := by
  intro char inside
  rw [Text.isGraphic_iff]
  rcases List.mem_append.mp inside with inside | inside
  · have bounds := isHostChar_iff.mp (chars char inside)
    omega
  · have bounds := written.bounds char inside
    omega

theorem clean_of_graphic {text : List Char} (graphic : ∀ char ∈ text, Text.isGraphic char = true) :
    clean text = text := by
  have visible (char : Char) (inside : char ∈ text) : decide (char.toNat ≤ 0x20) = false := by
    have bounds := Text.isGraphic_iff.mp (graphic char inside)
    exact decide_eq_false (by omega)
  rw [clean, Text.trimBy_of_forall visible, List.filter_eq_self]
  intro char inside
  have bounds := Text.isGraphic_iff.mp (graphic char inside)
  have differs (mark : Char) (low : mark.toNat ≤ 32) : char ≠ mark := by
    rintro rfl
    omega
  simp [differs '\t' (by decide), differs '\n' (by decide),
    differs '\r' (by decide)]

/-! ## Reading a plain server -/

theorem splitUser_of_plain {text : List Char} (unended : ∀ char ∈ text, endsServer char = false)
    (nameless : '@' ∉ text) : splitUser text = .ok (([], []), text) := by
  have whole : text.takeWhile (fun char => !endsServer char) = text :=
    List.takeWhile_eq_self_iff.mpr fun char inside => by simp [unended char inside]
  rw [splitUser, whole, Text.splitLast_eq_none.mpr nameless]

theorem endsServer_of_not_mem {text : List Char} (slash : '/' ∉ text) (question : '?' ∉ text)
    (hash : '#' ∉ text) : ∀ char ∈ text, endsServer char = false := by
  intro char inside
  have differs (mark : Char) (absent : mark ∉ text) : char ≠ mark := by
    rintro rfl
    exact absent inside
  simp [endsServer, differs '/' slash, differs '?' question, differs '#' hash]

theorem splitHost_of_plain (chars : ∀ char ∈ host, isHostChar char = true)
    (written : PortText port back) : splitHost false (host ++ back) = (host, back) := by
  induction host with
  | nil =>
      cases written with
      | absent => rfl
      | digits => simp [splitHost]
  | cons char rest ih =>
      have bounds := isHostChar_iff.mp (chars char List.mem_cons_self)
      have differs (mark : Char) (outside : mark.toNat < 45 ∨ mark.toNat = 47 ∨
          58 ≤ mark.toNat ∧ mark.toNat < 97) : char ≠ mark := by
        rintro rfl
        omega
      have others := ih fun other inside => chars other (List.mem_cons_of_mem _ inside)
      simp [splitHost, endsServer, differs ':' (by decide),
        differs '/' (by decide), differs '?' (by decide),
        differs '#' (by decide), differs '[' (by decide), others]

theorem plainHost_of_plain (chars : ∀ char ∈ host, isHostChar char = true) :
    plainHost host = .ok host := by
  have bounds (char : Char) (inside : char ∈ host) := isHostChar_iff.mp (chars char inside)
  have unbracketed : bracketed? host = none := by
    cases host with
    | nil => rfl
    | cons char rest =>
        rw [bracketed?]
        rintro tail same
        cases same
        exact absurd (bounds '[' List.mem_cons_self) (by decide)
  have allowed : host.any forbidden.contains = false := by
    rw [List.any_eq_false]
    intro char inside found
    have marks : forbidden.all fun mark => mark.toNat < 45 ∨ mark.toNat = 47 ∨
        58 ≤ mark.toNat ∧ mark.toNat < 97 ∨ 122 < mark.toNat := by decide
    have outside := of_decide_eq_true
      (List.all_eq_true.mp marks char (List.contains_iff_mem.mp found))
    have := bounds char inside
    omega
  have plain (char : Char) (inside : char ∈ host) : isControl char = false := by
    have := bounds char inside
    simp only [isControl, Bool.or_eq_false_iff, decide_eq_false_iff_not]
    omega
  have kept : Percent.encode isControl host = host := by
    rw [Percent.encode]
    calc host.flatMap _ = host.flatMap fun char => [char] :=
          List.flatMap_congr fun char inside => by rw [plain char inside]; rfl
      _ = host := List.flatMap_singleton' host
  simp only [plainHost, unbracketed, allowed, kept, Bool.false_eq_true, if_false]

theorem readPort_of_digits {run : List Char} (filled : run ≠ [])
    (digits : ∀ char ∈ run, Decimal.isDigit char = true) (small : Decimal.ofDigits 0 run ≤ 65535) :
    readPort run = .ok (some (Decimal.ofDigits 0 run), []) := by
  have whole : run.takeWhile Decimal.isDigit = run := List.takeWhile_eq_self_iff.mpr digits
  simp [readPort, whole, Nat.not_lt.mpr small, filled]

theorem readServer_of_plain (filled : host ≠ []) (chars : ∀ char ∈ host, isHostChar char = true)
    (written : PortText port back) : readServer (host ++ back) = .ok ({ host, port }, []) := by
  have absent (mark : Char) (outside : mark.toNat < 45 ∨ mark.toNat = 47 ∨ mark.toNat = 63 ∨
      mark.toNat = 64) := not_mem_server chars written mark outside
  have split := splitUser_of_plain (endsServer_of_not_mem (absent '/' (by decide))
    (absent '?' (by decide)) (absent '#' (by decide)))
    (absent '@' (by decide))
  rw [readServer, split]
  simp only [bind, Except.bind, splitHost_of_plain chars written, plainHost_of_plain chars]
  cases written with
  | absent => simp [filled, pure, Except.pure]
  | digits some digits small =>
      simp [filled, readPort_of_digits some digits small, pure, Except.pure]

/-! ## Reading a plain address -/

theorem parse_of_plain (known : scheme = "redis" ∨ scheme = "rediss") (filled : host ≠ [])
    (chars : ∀ char ∈ host, isHostChar char = true) (written : PortText port back) :
    parse (String.ofList (scheme.toList ++ ':' :: '/' :: '/' :: (host ++ back))) =
      .ok { scheme, authority := .server { host, port }, path := [] } := by
  have graphic : ∀ char ∈ scheme.toList ++ ':' :: '/' :: '/' :: (host ++ back),
      Text.isGraphic char = true := by
    have front : ∀ char ∈ scheme.toList ++ [':', '/', '/'], Text.isGraphic char = true :=
      List.all_eq_true.mp (by rcases known with rfl | rfl <;> decide)
    intro char inside
    rw [show scheme.toList ++ ':' :: '/' :: '/' :: (host ++ back) =
      scheme.toList ++ [':', '/', '/'] ++ (host ++ back) by simp] at inside
    rcases List.mem_append.mp inside with inside | inside
    · exact front char inside
    · exact isGraphic_server chars written char inside
  have split : splitScheme? (scheme.toList ++ ':' :: '/' :: '/' :: (host ++ back)) =
      some (scheme.toList, '/' :: '/' :: (host ++ back)) := by
    have unmarked : ':' ∉ scheme.toList := by rcases known with rfl | rfl <;> decide
    rw [splitScheme?, Text.splitFirst_append unmarked]
    rcases known with rfl | rfl <;> rfl
  have server := readServer_of_plain filled chars written
  have tail : splitTail [] = ([], none, none) := rfl
  have path : readPath [] [] = [] := by decide
  rw [parse, String.toList_ofList, clean_of_graphic graphic, split]
  rcases known with rfl | rfl <;>
    simp [webSchemes, server, bind, Except.bind, pure, Except.pure, tail, path]

end Address

/-! ## Connections -/

namespace RedisConfig

open Address

variable {config : RedisConfig} {scheme : String} {host front back : List Char} {port : Option Nat}

theorem hasScheme_of_not_mem {text : List Char} (absent : '/' ∉ text) : hasScheme text = false := by
  induction text with
  | nil => rfl
  | cons char rest ih =>
      have others := ih fun inside => absent (List.mem_cons_of_mem _ inside)
      rw [hasScheme.eq_def]
      split
      · next same =>
          cases same
          exact absurd (by simp) absent
      · next same =>
          cases same
          exact others
      · rfl

/-- A plain address is one behind a scheme, which is put there when there is none. -/
theorem fullAddress_of_plain (plain : IsPlain config.address scheme host port) :
    (scheme = "redis" ∨ scheme = "rediss") ∧ ∃ back, PortText port back ∧
      config.fullAddress = String.ofList (scheme.toList ++ ':' :: '/' :: '/' :: (host ++ back)) := by
  obtain ⟨front, back, schemeText, written, same⟩ := plain.written
  have bare : hasScheme (host ++ back) = false :=
    hasScheme_of_not_mem (not_mem_server plain.chars written '/' (by decide))
  cases schemeText with
  | bare =>
      refine ⟨.inl rfl, back, written, ?_⟩
      rw [fullAddress, same, String.toList_ofList, List.nil_append, bare,
        if_neg Bool.false_ne_true]
      exact String.toList_injective (by simp)
  | plain =>
      refine ⟨.inl rfl, back, written, ?_⟩
      rw [fullAddress, same, String.toList_ofList]
      rfl
  | secured =>
      refine ⟨.inr rfl, back, written, ?_⟩
      rw [fullAddress, same, String.toList_ofList]
      rfl

/-- Whatever is escaped in a password is read back, and its own escapes are read too. -/
theorem decode_password (password : String) :
    Percent.decode (Utf8.encode (Percent.encode inUserSet password.toList)) =
      Percent.decode (Utf8.ofString password) := by
  have foreign (char : Char) (outside : 127 < char.toNat) : inUserSet char = true := by
    have control : isControl char = true := by
      rw [isControl, Bool.or_eq_true, decide_eq_true_eq, decide_eq_true_eq]
      omega
    simp [inUserSet, inPathSet, inFragmentSet, control]
  have digits : ∀ octet : UInt8, Percent.isHexOctet octet = true →
      inUserSet (Char.ofNat octet.toNat) = false := by
    have all : ∀ code < 256, Percent.isHexOctet (UInt8.ofNat code) = true →
        inUserSet (Char.ofNat code) = false := by decide +kernel
    intro octet digit
    exact all octet.toNat octet.toNat_lt (by rwa [UInt8.ofNat_toNat])
  rw [Percent.encode_encode foreign, Percent.decode_shield (by decide) digits]
  rfl

theorem leadsTo_of_plain (plain : IsPlain config.address scheme host port) :
    ∃ address, config.connectionAddress = .ok address ∧
      config.LeadsTo scheme host port address := by
  obtain ⟨known, back, written, full⟩ := fullAddress_of_plain plain
  have parsed := parse_of_plain known plain.filled plain.chars written
  have supported : schemes.contains scheme = true := by rcases known with rfl | rfl <;> decide
  let secured : Address :=
    { scheme
      authority := .server { password := Percent.encode inUserSet config.password.toList, host, port }
      path := if config.database = 0 then [] else '/' :: Json.writeInt config.database }
  have empty : Percent.encode inUserSet config.password.toList = [] ↔ config.password = "" := by
    rw [Percent.encode_eq_nil_iff, String.toList_eq_nil_iff]
  refine ⟨secured, ?_, rfl, ⟨_, rfl, empty⟩, rfl, ⟨rfl, rfl⟩, decode_password _⟩
  rw [connectionAddress, full, parsed]
  have plainPassword (blank : config.password = "") :
      Percent.encode inUserSet config.password.toList = [] := empty.mpr blank
  by_cases blank : config.password = "" <;> by_cases zero : config.database = 0 <;>
    simp only [mapError_ok, bind, Except.bind, pure, Except.pure, supported, not_true_eq_false,
      if_false, if_true, blank, zero, withPassword?, plain.filled, withSegment, isRootless, secured]
  · rw [show Percent.encode inUserSet "".toList = [] from rfl]
  · rw [show Percent.encode inUserSet "".toList = [] from rfl]
    simp
  · simp

end RedisConfig

/--
A plain server address leads to that server, under the database and the password
of the configuration, where the escapes of the password are replaced.  So it is
the password itself exactly when no escape stands in it, and no other password
without an escape is read from the address then.
-/
theorem connections_carry_credentials {config : RedisConfig} {scheme : String} {host : List Char}
    {port : Option Nat} (plain : Address.IsPlain config.address scheme host port) :
    ∃ address, config.connectionAddress = .ok address ∧
      config.LeadsTo scheme host port address ∧
      (address.decodedPassword = Utf8.ofString config.password ↔
        ¬ Percent.HasEscape (Utf8.ofString config.password)) ∧
      ∀ other : RedisConfig, ∀ {scheme host port otherAddress},
        other.LeadsTo scheme host port otherAddress →
          ¬ Percent.HasEscape (Utf8.ofString config.password) →
            ¬ Percent.HasEscape (Utf8.ofString other.password) →
              otherAddress.decodedPassword = address.decodedPassword →
                other.password = config.password := by
  obtain ⟨address, connected, leads⟩ := RedisConfig.leadsTo_of_plain plain
  refine ⟨address, connected, leads, by rw [leads.password, Percent.decode_eq_self_iff], ?_⟩
  intro other _ _ _ otherAddress otherLeads free otherFree same
  rw [otherLeads.password, leads.password, Percent.decode_eq_self_iff.mpr free,
    Percent.decode_eq_self_iff.mpr otherFree] at same
  exact String.toList_injective (Utf8.encode_injective same)

theorem connections_carry_credentials_marked :
    Address.IsPlain "rediss://cache-1.internal:06380" "rediss" "cache-1.internal".toList
        (some 6380) ∧
      ∃ address, RedisConfig.connectionAddress
          { address := "rediss://cache-1.internal:06380", password := "100% p@ss:é", database := 3 } =
            .ok address ∧
        address.scheme = "rediss" ∧ address.path = "/3".toList ∧
        address.decodedPassword = Utf8.ofString "100% p@ss:é" := by
  have port : Address.PortText (some 6380) ":06380".toList :=
    @Address.PortText.digits "06380".toList (by decide) (List.all_eq_true.mp (by decide)) (by decide)
  have plain : Address.IsPlain "rediss://cache-1.internal:06380" "rediss"
      "cache-1.internal".toList (some 6380) :=
    ⟨by decide, List.all_eq_true.mp (by decide), _, _, .secured, port, rfl⟩
  have free : ¬ Percent.HasEscape (Utf8.ofString "100% p@ss:é") :=
    Percent.decode_eq_self_iff.mp (by decide +kernel)
  obtain ⟨address, connected, leads, exact, -⟩ := @connections_carry_credentials
    { address := "rediss://cache-1.internal:06380", password := "100% p@ss:é", database := 3 }
    _ _ _ plain
  exact ⟨plain, address, connected, leads.scheme, leads.path, exact.mpr free⟩

/-- A password that looks like an escape is taken for the character that it stands for. -/
theorem escape_in_a_password_is_replaced :
    Address.IsPlain "cache:6380" "redis" "cache".toList (some 6380) ∧
      ∃ address, RedisConfig.connectionAddress { address := "cache:6380", password := "%41" } =
          .ok address ∧ address.decodedPassword = Utf8.ofString "A" := by
  have port : Address.PortText (some 6380) ":6380".toList :=
    @Address.PortText.digits "6380".toList (by decide) (List.all_eq_true.mp (by decide)) (by decide)
  refine ⟨⟨by decide, List.all_eq_true.mp (by decide), _, _, .bare, port, rfl⟩, _, rfl, ?_⟩
  decide +kernel

end SessionTokens
