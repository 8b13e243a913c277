/-
# Which texts are broker addresses

The grammar of an address is given apart from its reader: what stands behind the scheme (`Divides`),
and the host and the port in it (`Names`).  A text is read as an address exactly if the grammar has
it, and as the address that the grammar says (`broker_addresses_exactly`).  The last colon divides
the port from the host, so a host may hold colons of its own, and even what looks like a scheme.  An
address that was read is read again from the form in which scheme and port are always written out.
-/

import SoilWatch.Bus.BrokerUrl
import SoilWatch.Proofs.Text.Integer
import Mathlib.Data.List.Infix
import Mathlib.Data.List.TakeWhile

namespace SoilWatch
namespace Bus
namespace BrokerUrl

/-! ### The grammar -/

/-- **A text without its scheme**, and whether the connection is under TLS. -/
inductive Divides (s : String) : (tls : Bool) → (rest : String) → Prop where
  | plain {rest : String} (h : s = "mqtt://" ++ rest) : Divides s false rest
  | secure {rest : String} (h : s = "mqtts://" ++ rest) : Divides s true rest
  | bare (h : ¬ "://".toList <:+: s.toList) : Divides s false s

/-- The texts of a port: digits, with a plus sign in front or without. -/
def WritesPort (port : String) (n : Nat) : Prop :=
  ∃ ds, (port.toList = ds ∨ port.toList = '+' :: ds) ∧ Text.IsDigits ds ∧
    n = Nat.ofDigitChars 10 ds 0 ∧ n ≤ 65535

/-- **The host and the port behind a scheme**: a host alone, or the two around the last colon. -/
inductive Names (tls : Bool) : (rest : String) → BrokerUrl → Prop where
  | host {host : String} (hne : host ≠ "") (hcolon : ':' ∉ host.toList) :
    Names tls host ⟨host, if tls then 8883 else 1883, tls⟩
  | hostAndPort {host port : String} {n : Nat} (hne : host ≠ "") (hcolon : ':' ∉ port.toList)
    (hport : WritesPort port n) : Names tls (host ++ ":" ++ port) ⟨host, n, tls⟩

/-- The address with its scheme and its port written out. -/
def text (u : BrokerUrl) : String :=
  (if u.tls then "mqtts://" else "mqtt://") ++ (u.host ++ ":" ++ u.port.repr)

/-! ### Schemes -/

variable {part cs rest host port : List Char} {tls : Bool} {u : BrokerUrl}

theorem behind?_eq_some : behind? part cs = some rest ↔ cs = part ++ rest := by
  induction part generalizing cs with
  | nil => rw [behind?, Option.some.injEq, List.nil_append]
  | cons a part ih =>
    cases cs with
    | nil => exact iff_of_false nofun nofun
    | cons c cs =>
      rw [behind?, List.cons_append, List.cons.injEq]
      by_cases h : a = c
      · rw [if_pos h, ih, and_iff_right h.symm]
      · rw [if_neg h]
        exact iff_of_false nofun fun heq => h heq.1.symm

theorem isSome_behind? : (behind? part cs).isSome ↔ part <+: cs := by
  rw [Option.isSome_iff_exists]
  constructor
  · rintro ⟨rest, h⟩
    exact ⟨rest, (behind?_eq_some.1 h).symm⟩
  · rintro ⟨rest, h⟩
    exact ⟨rest, behind?_eq_some.2 h.symm⟩

theorem contains_iff : contains part cs ↔ part <:+: cs := by
  induction cs with
  | nil => rw [contains, isSome_behind?, List.infix_nil, List.prefix_nil]
  | cons c cs ih => rw [contains, Bool.or_eq_true, isSome_behind?, ih, List.infix_cons_iff]

/-! ### Hosts and ports -/

/-- A text with a colon has a last one. -/
theorem exists_last_colon (h : ':' ∈ cs) :
    ∃ host port, cs = host ++ ':' :: port ∧ ':' ∉ port := by
  obtain ⟨port, host, hback, hport⟩ := List.eq_append_cons_of_mem (List.mem_reverse.2 h)
  refine ⟨host.reverse, port.reverse, ?_, mt List.mem_reverse.1 hport⟩
  rw [← cs.reverse_reverse, hback, List.reverse_append, List.reverse_cons, List.append_assoc,
    List.singleton_append]

/-- **The last colon divides.** -/
theorem splitPort?_append (host : List Char) (h : ':' ∉ port) :
    splitPort? (host ++ ':' :: port) = some (host, port) := by
  have hback : ∀ c ∈ port.reverse, decide (c ≠ ':') = true := by
    intro c hc
    refine decide_eq_true fun heq => h ?_
    exact heq ▸ List.mem_reverse.1 hc
  unfold splitPort?
  rw [List.reverse_append, List.reverse_cons, List.append_assoc, List.singleton_append,
    List.dropWhile_append_of_pos hback, List.takeWhile_append_of_pos hback,
    List.dropWhile_cons_of_neg (by simp), List.takeWhile_cons_of_neg (by simp)]
  simp

theorem splitPort?_of_not_mem (h : ':' ∉ cs) : splitPort? cs = none := by
  have hall : ∀ c ∈ cs.reverse, decide (c ≠ ':') = true := by
    intro c hc
    refine decide_eq_true fun heq => h ?_
    exact heq ▸ List.mem_reverse.1 hc
  rw [splitPort?, List.dropWhile_eq_nil_iff.2 hall]

/-- What is read as a port. -/
theorem readInteger_port {port : String} {m : Int} : Text.readInteger .port port.toList = .ok m ↔
    ∃ n : Nat, m = n ∧ WritesPort port n := by
  rw [Text.readInteger_eq_ok rfl (by decide)]
  constructor
  · rintro ⟨ds, hport, hds, rfl, hle⟩
    exact ⟨_, rfl, ds, hport, hds, rfl, Int.ofNat_le.1 hle⟩
  · rintro ⟨_, rfl, ds, hport, hds, rfl, hle⟩
    exact ⟨ds, hport, hds, rfl, Int.ofNat_le.2 hle⟩

/-- A port holds no colon. -/
theorem WritesPort.not_mem {port : String} {n : Nat} (h : WritesPort port n) :
    ':' ∉ port.toList := by
  obtain ⟨ds, hport, ⟨-, hdigits⟩, -⟩ := h
  have hds : ':' ∉ ds := fun hmem => absurd (hdigits _ hmem) (by decide)
  rcases hport with hport | hport <;> rw [hport]
  · exact hds
  · exact List.not_mem_cons_of_ne_of_not_mem (by decide) hds

/-- **A host and a port are read exactly where the grammar has them.** -/
theorem parseHost_eq_ok {rest : String} :
    parseHost tls rest.toList = .ok u ↔ Names tls rest u := by
  constructor
  · intro h
    by_cases hmem : ':' ∈ rest.toList
    · obtain ⟨host, port, hrest, hport⟩ := exists_last_colon hmem
      rw [parseHost, hrest, splitPort?_append host hport] at h
      dsimp only at h
      split at h
      case h_1 => cases h
      case h_2 m hm =>
        split_ifs at h with hempty
        rw [← String.toList_ofList (l := port)] at hm
        obtain ⟨n, rfl, hn⟩ := readInteger_port.1 hm
        obtain rfl : rest = String.ofList host ++ ":" ++ String.ofList port := by
          rw [← String.toList_inj, hrest]
          simp
        obtain rfl := Except.ok.inj h
        refine .hostAndPort (fun heq => hempty ?_) (by simpa using hport) hn
        simpa using congrArg String.toList heq
    · rw [parseHost, splitPort?_of_not_mem hmem] at h
      dsimp only at h
      split_ifs at h with hempty
      obtain rfl := Except.ok.inj h
      rw [String.ofList_toList]
      refine .host (fun heq => hempty ?_) hmem
      rw [heq]
      rfl
  · intro h
    cases h with
    | host hne hcolon =>
      have hnonempty : ¬ rest.toList.isEmpty = true := by simpa using hne
      rw [parseHost, splitPort?_of_not_mem hcolon]
      dsimp only
      rw [if_neg hnonempty, String.ofList_toList]
      rfl
    | @hostAndPort host port n hne hcolon hport =>
      have hnonempty : ¬ host.toList.isEmpty = true := by simpa using hne
      have hrest : (host ++ ":" ++ port).toList = host.toList ++ ':' :: port.toList := by simp
      rw [parseHost, hrest, splitPort?_append _ hcolon]
      dsimp only
      rw [readInteger_port.2 ⟨n, rfl, hport⟩]
      dsimp only
      rw [if_neg hnonempty, String.ofList_toList, Int.toNat_natCast]

/-! ### Addresses -/

/-- What a text with a scheme leaves behind it. -/
theorem eq_append_of_behind? {s scheme : String} (h : behind? scheme.toList s.toList = some rest) :
    s = scheme ++ String.ofList rest := by
  rw [← String.toList_inj, behind?_eq_some.1 h, String.toList_append, String.toList_ofList]

theorem behind?_append (scheme rest : String) :
    behind? scheme.toList (scheme ++ rest).toList = some rest.toList :=
  behind?_eq_some.2 String.toList_append

/-- A text in which no scheme ends has none. -/
theorem behind?_eq_none (h : ¬ schemeEnd <:+: cs) (hpart : schemeEnd <:+: part) :
    behind? part cs = none := by
  rcases hbehind : behind? part cs with _ | rest
  · rfl
  · obtain rfl := behind?_eq_some.1 hbehind
    exact absurd (hpart.trans (List.infix_append' [] part rest)) h

/-- Without a scheme a text is read as a host and a port. -/
theorem parse_of_bare {s : String} (h : ¬ schemeEnd <:+: s.toList) :
    parse s = parseHost false s.toList := by
  have hcontains : ¬ contains schemeEnd s.toList = true := mt contains_iff.1 h
  -- Both schemes end in the mark that the text does not have.
  have hplain : behind? plainScheme s.toList = none := behind?_eq_none h ⟨"mqtt".toList, [], rfl⟩
  have htls : behind? tlsScheme s.toList = none := behind?_eq_none h ⟨"mqtts".toList, [], rfl⟩
  unfold parse
  dsimp only
  rw [hplain, htls]
  dsimp only
  rw [if_neg hcontains]

theorem parse_plain (rest : String) : parse ("mqtt://" ++ rest) = parseHost false rest.toList := by
  unfold parse plainScheme
  dsimp only
  rw [behind?_append]

theorem parse_secure (rest : String) : parse ("mqtts://" ++ rest) = parseHost true rest.toList := by
  have hplain : behind? plainScheme ("mqtts://" ++ rest).toList = none := by
    rw [String.toList_append]
    rfl
  unfold parse tlsScheme
  dsimp only
  rw [hplain, behind?_append]

/-- **An address is read exactly where the grammar has it.** -/
theorem parse_eq_ok {s : String} :
    parse s = .ok u ↔ ∃ tls rest, Divides s tls rest ∧ Names tls rest u := by
  constructor
  · intro h
    have hnames {tls : Bool} {rest : List Char} (hhost : parseHost tls rest = .ok u) :
        Names tls (String.ofList rest) u :=
      parseHost_eq_ok.1 (by rwa [String.toList_ofList])
    unfold parse at h
    dsimp only at h
    split at h
    case h_1 rest hrest =>
      exact ⟨false, String.ofList rest, .plain (eq_append_of_behind? hrest), hnames h⟩
    split at h
    case h_1 rest hrest =>
      exact ⟨true, String.ofList rest, .secure (eq_append_of_behind? hrest), hnames h⟩
    split_ifs at h with hscheme
    exact ⟨false, s, .bare (mt contains_iff.2 hscheme), parseHost_eq_ok.1 h⟩
  · rintro ⟨tls, rest, hdivides, hnames⟩
    have hhost := parseHost_eq_ok.2 hnames
    cases hdivides with
    | plain h => rw [h, parse_plain, hhost]
    | secure h => rw [h, parse_secure, hhost]
    | bare h => rw [parse_of_bare h, hhost]

/-- The form with scheme and port written out names the address. -/
theorem Names.text {rest : String} (h : Names tls rest u) :
    Divides u.text tls (u.host ++ ":" ++ u.port.repr) ∧
      Names tls (u.host ++ ":" ++ u.port.repr) u := by
  have hport {n : Nat} (hn : n ≤ 65535) : WritesPort n.repr n := by
    refine ⟨Nat.toDigits 10 n, .inl ?_, Text.isDigits_toDigits n, ?_, hn⟩
    · rw [Nat.repr, String.toList_ofList]
    · rw [Nat.ofDigitChars_ten_toDigits]
  obtain ⟨htls, hne, hle⟩ : u.tls = tls ∧ u.host ≠ "" ∧ u.port ≤ 65535 := by
    cases h with
    | host hne =>
      refine ⟨rfl, hne, ?_⟩
      show (if tls then 8883 else 1883) ≤ 65535
      split <;> decide
    | hostAndPort hne _ hport =>
      obtain ⟨-, -, -, -, hle⟩ := hport
      exact ⟨rfl, hne, hle⟩
  obtain ⟨host, port, utls⟩ := u
  obtain rfl : utls = tls := htls
  refine ⟨?_, .hostAndPort hne (hport hle).not_mem (hport hle)⟩
  cases utls with
  | false => exact .plain rfl
  | true => exact .secure rfl

/-- **A text is a broker address exactly if the grammar has it.**  What was read is read again from
its canonical text, and a text without a scheme is read like the one with `mqtt://` in front. -/
theorem broker_addresses_exactly (s : String) :
    (∀ u, parse s = .ok u ↔ ∃ tls rest, Divides s tls rest ∧ Names tls rest u) ∧
    (∀ u, parse s = .ok u → parse u.text = .ok u) ∧
    (¬ "://".toList <:+: s.toList → parse s = parse ("mqtt://" ++ s)) := by
  refine ⟨fun u => parse_eq_ok, ?_, ?_⟩
  · intro u h
    obtain ⟨tls, rest, -, hnames⟩ := parse_eq_ok.1 h
    exact parse_eq_ok.2 ⟨tls, _, hnames.text⟩
  · intro h
    rw [parse_plain, parse_of_bare h]

/-- The host of an address may hold colons, and its port a sign and zeros in front. -/
theorem loopback_read_again :
    parse "mqtts://::1:+0080" = .ok ⟨"::1", 80, true⟩ ∧
    parse "mqtts://::1:80" = .ok ⟨"::1", 80, true⟩ ∧
    parse "broker" = parse "mqtt://broker" := by
  obtain ⟨hread, hagain, -⟩ := broker_addresses_exactly "mqtts://::1:+0080"
  have hloopback : parse "mqtts://::1:+0080" = .ok ⟨"::1", 80, true⟩ := by
    have hport : WritesPort "+0080" 80 :=
      ⟨"0080".toList, .inr (by decide), ⟨by decide, by simp⟩, by decide, by decide⟩
    have hnames : Names true ("::1" ++ ":" ++ "+0080") ⟨"::1", 80, true⟩ :=
      .hostAndPort (by decide) (by decide) hport
    exact (hread _).2 ⟨true, "::1:+0080", .secure (by decide), hnames⟩
  exact ⟨hloopback, hagain _ hloopback, (broker_addresses_exactly "broker").2.2 (by decide)⟩

end BrokerUrl
end Bus
end SoilWatch
