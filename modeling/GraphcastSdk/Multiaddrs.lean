import GraphcastSdk.Agent
import GraphcastSdk.Lib.Traverse

/-!
# Boot node addresses (`convert_to_multiaddrs`)

Each address is trimmed, loses one pair of enclosing double quotes, and is parsed. The quotes are
looked for at the start and at the end of the text: a lone quote is found at both, and cutting it
off twice panics.

* `convertAddress_eq_ok_iff`, `isPanic_convertAddress_iff`: what one address comes to.
* `isPanic_convertToMultiaddrs_iff`: a lone quote before any address that is refused panics.
* `convertToMultiaddrs_iff`: the conversion answers rightly iff every lone quote comes after an
  address that is refused; and quoting makes no difference but to a lone quote.

`Multiaddr::from_str` is the parameter `fromStr`, an arbitrary function.
-/

namespace GraphcastSdk

variable {A : Type} (fromStr : String → Except String A)

/-- The closure of `convert_to_multiaddrs`, on one address. -/
def convertAddress (address : String) : Outcome ConfigError A := do
  let address := Text.trim address
  if address = "" then .err (.validateInput "Empty input")
  else do
    let address ←
      if Text.startsWith address '"' && Text.endsWith address '"' then
        Text.slice address 1 (address.utf8ByteSize - 1)
      else pure address
    Outcome.ofExcept .validateInput (fromStr address)

/-- `convert_to_multiaddrs`. -/
def convertToMultiaddrs (addresses : List String) : Outcome ConfigError (List A) :=
  Outcome.traverse (convertAddress fromStr) addresses

/-! ## What the conversion is for -/

/-- A text in double quotes. -/
def quoted (s : String) : String := "\"" ++ s ++ "\""

/-- The text between enclosing quotes, or the text as it is when there is no pair of them. -/
def Unquotes (s inner : String) : Prop :=
  s = quoted inner ∨ (¬ ∃ t, s = quoted t) ∧ inner = s

/-- An address stands for what it parses to, trimmed and unquoted. -/
def StandsFor (address : String) (multiaddr : A) : Prop :=
  Text.trim address ≠ "" ∧ ∃ inner, Unquotes (Text.trim address) inner ∧
    fromStr inner = .ok multiaddr

def Usable (address : String) : Prop := ∃ multiaddr, StandsFor fromStr address multiaddr

/-- The answer of an address conversion: one address for each when all are usable, and else an
error in the input. -/
structure AnswersMultiaddrs (addresses : List String) (result : Outcome ConfigError (List A)) :
    Prop where
  converted : (∀ address ∈ addresses, Usable fromStr address) → ∃ multiaddrs,
    result = .ok multiaddrs ∧ List.Forall₂ (StandsFor fromStr) addresses multiaddrs
  refused : (¬ ∀ address ∈ addresses, Usable fromStr address) →
    ∃ text, result = .err (.validateInput text)

/-! ## One address -/

variable {fromStr} {address : String}

theorem toList_quoted (s : String) : (quoted s).toList = '"' :: (s.toList ++ ['"']) := by
  unfold quoted
  rw [String.toList_append, String.toList_append]
  rfl

theorem exists_quoted_iff {s : String} :
    (∃ t, s = quoted t) ↔ ∃ cs, s.toList = '"' :: (cs ++ ['"']) := by
  constructor
  · rintro ⟨t, rfl⟩
    exact ⟨t.toList, toList_quoted t⟩
  · rintro ⟨cs, h⟩
    refine ⟨String.ofList cs, String.toList_injective ?_⟩
    rw [toList_quoted, String.toList_ofList, h]

theorem quoted_injective {s t : String} (h : quoted s = quoted t) : s = t := by
  have hlist := congrArg String.toList h
  rw [toList_quoted, toList_quoted] at hlist
  exact String.toList_injective (List.append_cancel_right (List.cons.inj hlist).2)

/-- Cutting off the quotes of a quoted text. -/
theorem slice_quoted (s : String) :
    (Text.slice (quoted s) 1 ((quoted s).utf8ByteSize - 1) : Outcome ConfigError String) =
      .ok s := by
  have hsplit : (quoted s).toList = (['"'] ++ s.toList) ++ ['"'] := toList_quoted s
  have hlen : (quoted s).utf8ByteSize - 1 = String.utf8Len (['"'] ++ s.toList) := by
    rw [Text.utf8ByteSize_eq, hsplit, String.utf8Len_append]
    rfl
  have hone : 1 = String.utf8Len ['"'] := rfl
  rw [hlen, hone, Text.slice_eq hsplit, String.ofList_toList]

/-- The address after trimming and unquoting, for one that is not a lone quote. -/
theorem convertAddress_eq {inner : String} (hne : Text.trim address ≠ "")
    (hlone : Text.trim address ≠ "\"") (hin : Unquotes (Text.trim address) inner) :
    convertAddress fromStr address = Outcome.ofExcept .validateInput (fromStr inner) := by
  unfold convertAddress
  dsimp only
  rw [if_neg hne]
  rcases hin with hq | ⟨hno, rfl⟩
  · have hends : (Text.startsWith (Text.trim address) '"' &&
        Text.endsWith (Text.trim address) '"') = true :=
      Text.startsWith_and_endsWith_iff.mpr (Or.inr (exists_quoted_iff.mp ⟨inner, hq⟩))
    rw [if_pos hends, hq, slice_quoted, Outcome.ok_bind]
  · have hends : ¬ (Text.startsWith (Text.trim address) '"' &&
        Text.endsWith (Text.trim address) '"') = true := by
      rw [Text.startsWith_and_endsWith_iff]
      rintro (hl | hq)
      · exact hlone (String.toList_injective hl)
      · exact hno (exists_quoted_iff.mpr hq)
    rw [if_neg hends, Outcome.pure_def, Outcome.ok_bind]

theorem exists_unquotes (s : String) : ∃ inner, Unquotes s inner := by
  by_cases h : ∃ t, s = quoted t
  · obtain ⟨t, rfl⟩ := h
    exact ⟨t, Or.inl rfl⟩
  · exact ⟨s, Or.inr ⟨h, rfl⟩⟩

theorem Unquotes.unique {s inner inner' : String} (h : Unquotes s inner)
    (h' : Unquotes s inner') : inner = inner' := by
  rcases h with h | ⟨hno, rfl⟩
  · rcases h' with h' | ⟨hno', -⟩
    · exact quoted_injective (h.symm.trans h')
    · exact absurd ⟨inner, h⟩ hno'
  · rcases h' with h' | ⟨-, rfl⟩
    · exact absurd ⟨inner', h'⟩ hno
    · rfl

/-- Any other address comes to what it stands for. -/
theorem convertAddress_eq_ok_iff (hlone : Text.trim address ≠ "\"") {multiaddr : A} :
    convertAddress fromStr address = .ok multiaddr ↔ StandsFor fromStr address multiaddr := by
  obtain ⟨inner, hin⟩ := exists_unquotes (Text.trim address)
  by_cases hne : Text.trim address = ""
  · have herr : convertAddress fromStr address = .err (.validateInput "Empty input") := if_pos hne
    rw [herr]
    exact iff_of_false (by simp) fun h => h.1 hne
  · rw [convertAddress_eq hne hlone hin, Outcome.ofExcept_eq_ok]
    constructor
    · intro h
      exact ⟨hne, inner, hin, h⟩
    · rintro ⟨-, inner', hin', h⟩
      rw [hin.unique hin']
      exact h

/-- And an error in the input when it stands for nothing. -/
theorem convertAddress_of_not_usable (hlone : Text.trim address ≠ "\"")
    (h : ¬ Usable fromStr address) :
    ∃ text, convertAddress fromStr address = .err (.validateInput text) := by
  obtain ⟨inner, hin⟩ := exists_unquotes (Text.trim address)
  by_cases hne : Text.trim address = ""
  · exact ⟨"Empty input", if_pos hne⟩
  · rw [convertAddress_eq hne hlone hin]
    cases hparse : fromStr inner with
    | ok multiaddr => exact absurd ⟨multiaddr, hne, inner, hin, hparse⟩ h
    | error e => exact ⟨e, rfl⟩

variable (fromStr) in
/-- Lone quotes, and they alone, panic. -/
theorem isPanic_convertAddress_iff :
    (convertAddress fromStr address).isPanic = true ↔ Text.trim address = "\"" := by
  constructor
  · intro hpanic
    by_contra hlone
    by_cases hu : Usable fromStr address
    · obtain ⟨multiaddr, hm⟩ := hu
      rw [(convertAddress_eq_ok_iff hlone).mpr hm] at hpanic
      exact absurd hpanic (by simp)
    · obtain ⟨text, herr⟩ := convertAddress_of_not_usable hlone hu
      rw [herr] at hpanic
      exact absurd hpanic (by simp)
  · intro hlone
    unfold convertAddress
    rw [hlone]
    rfl

theorem standsFor_of_convertAddress {multiaddr : A}
    (h : convertAddress fromStr address = .ok multiaddr) :
    Text.trim address ≠ "\"" ∧ StandsFor fromStr address multiaddr := by
  have hlone : Text.trim address ≠ "\"" := by
    rw [Ne, ← isPanic_convertAddress_iff fromStr, h]
    simp
  exact ⟨hlone, (convertAddress_eq_ok_iff hlone).mp h⟩

theorem not_usable_of_convertAddress {e : ConfigError}
    (h : convertAddress fromStr address = .err e) :
    ¬ Usable fromStr address ∧ ∃ text, e = .validateInput text := by
  have hlone : Text.trim address ≠ "\"" := by
    rw [Ne, ← isPanic_convertAddress_iff fromStr, h]
    simp
  have hu : ¬ Usable fromStr address := by
    rintro ⟨multiaddr, hm⟩
    exact absurd (h.symm.trans ((convertAddress_eq_ok_iff hlone).mpr hm)) (by simp)
  obtain ⟨text, herr⟩ := convertAddress_of_not_usable hlone hu
  exact ⟨hu, text, Outcome.err.inj (h.symm.trans herr)⟩

/-- Quoting makes no difference to an address that is not a lone quote. -/
theorem convertAddress_quoted (hne : address ≠ "") (htrim : Text.trim address = address)
    (hno : ¬ ∃ t, address = quoted t) (hlone : address ≠ "\"") :
    convertAddress fromStr (quoted address) = convertAddress fromStr address := by
  have hq : Text.trim (quoted address) = quoted address :=
    Text.trim_eq_self (toList_quoted address) (by decide) (by decide)
  have hqne : quoted address ≠ "" := fun h =>
    absurd (congrArg String.toList h) (by rw [toList_quoted]; simp)
  have hqlone : quoted address ≠ "\"" := fun h =>
    absurd (congrArg String.toList h) (by rw [toList_quoted]; simp)
  have hquoted : convertAddress fromStr (quoted address) =
      Outcome.ofExcept .validateInput (fromStr address) :=
    convertAddress_eq (by rwa [hq]) (by rwa [hq]) (by rw [hq]; exact Or.inl rfl)
  have hplain : convertAddress fromStr address =
      Outcome.ofExcept .validateInput (fromStr address) :=
    convertAddress_eq (by rwa [htrim]) (by rwa [htrim])
      (by rw [htrim]; exact Or.inr ⟨hno, rfl⟩)
  rw [hquoted, hplain]

variable (fromStr) in
/-- A quoted lone quote is parsed, and does not panic. -/
theorem isPanic_convertAddress_quoted_lone :
    (convertAddress fromStr (quoted "\"")).isPanic = false := by
  have hq : Text.trim (quoted "\"") = quoted "\"" := by decide
  have heq : convertAddress fromStr (quoted "\"") =
      Outcome.ofExcept .validateInput (fromStr "\"") :=
    convertAddress_eq (by rw [hq]; decide) (by rw [hq]; decide) (by rw [hq]; exact Or.inl rfl)
  rw [heq, Outcome.isPanic_ofExcept]

/-! ## The list -/

/-- The conversion answers rightly iff it does not panic. -/
theorem answersMultiaddrs_iff_not_isPanic {addresses : List String} :
    AnswersMultiaddrs fromStr addresses (convertToMultiaddrs fromStr addresses) ↔
      ¬ (convertToMultiaddrs fromStr addresses).isPanic = true := by
  constructor
  · intro h
    by_cases hall : ∀ address ∈ addresses, Usable fromStr address
    · obtain ⟨multiaddrs, hok, -⟩ := h.converted hall
      rw [hok]
      simp
    · obtain ⟨text, herr⟩ := h.refused hall
      rw [herr]
      simp
  · intro hpanic
    unfold convertToMultiaddrs at hpanic ⊢
    rcases Outcome.traverse_cases (convertAddress fromStr) addresses with
      ⟨ms, hok, hms⟩ | ⟨before, x, after, hsplit, -, ⟨e, hx, htr⟩ | ⟨p, -, htr⟩⟩
    · have hstands : List.Forall₂ (StandsFor fromStr) addresses ms :=
        hms.imp fun _ _ hm => (standsFor_of_convertAddress hm).2
      refine ⟨fun _ => ⟨ms, hok, hstands⟩, fun hno => absurd (fun x hx => ?_) hno⟩
      exact Outcome.exists_of_forall₂ hstands hx
    · obtain ⟨hxuse, text, rfl⟩ := not_usable_of_convertAddress hx
      have hmem : x ∈ addresses := by rw [hsplit]; simp
      exact ⟨fun hall => absurd (hall x hmem) hxuse, fun _ => ⟨text, htr⟩⟩
    · rw [htr] at hpanic
      exact absurd hpanic (by simp)

/-- It panics iff a lone quote comes before any address that is refused. -/
theorem isPanic_convertToMultiaddrs_iff {addresses : List String} :
    (convertToMultiaddrs fromStr addresses).isPanic = true ↔
      ∃ before address after, addresses = before ++ address :: after ∧
        Text.trim address = "\"" ∧ ∀ b ∈ before, Usable fromStr b := by
  unfold convertToMultiaddrs
  have hcases := Outcome.traverse_cases (convertAddress fromStr) addresses
  constructor
  · intro hpanic
    rcases hcases with ⟨ms, hok, -⟩ | ⟨before, x, after, hsplit, hbefore, ⟨e, -, htr⟩ | ⟨p, hx, -⟩⟩
    · rw [hok] at hpanic
      exact absurd hpanic (by simp)
    · rw [htr] at hpanic
      exact absurd hpanic (by simp)
    · have hlone := (isPanic_convertAddress_iff fromStr).mp (by rw [hx]; rfl)
      refine ⟨before, x, after, hsplit, hlone, fun b hb => ?_⟩
      obtain ⟨m, hm⟩ := hbefore b hb
      exact ⟨m, (standsFor_of_convertAddress hm).2⟩
  · rintro ⟨before, address, after, hsplit, hlone, hbefore⟩
    have hmem : address ∈ addresses := by rw [hsplit]; simp
    -- the first address that is not converted comes no later than the lone quote
    rcases hcases with
      ⟨ms, -, hms⟩ | ⟨before', x, after', hsplit', hbefore', ⟨e, hx, -⟩ | ⟨p, -, htr⟩⟩
    · obtain ⟨m, hm⟩ := Outcome.exists_of_forall₂ hms hmem
      exact absurd hlone (standsFor_of_convertAddress hm).1
    · rcases Outcome.eq_or_mem_of_split (hsplit.symm.trans hsplit') with rfl | hmem' | hmem'
      · have hpanic := (isPanic_convertAddress_iff fromStr).mpr hlone
        rw [hx] at hpanic
        exact absurd hpanic (by simp)
      · obtain ⟨m, hm⟩ := hbefore' address hmem'
        exact absurd hlone (standsFor_of_convertAddress hm).1
      · exact absurd (hbefore x hmem') (not_usable_of_convertAddress hx).1
    · rw [htr]
      rfl

/-- The conversion answers rightly iff every lone quote comes after an address that is refused. -/
theorem answersMultiaddrs_iff {addresses : List String} :
    AnswersMultiaddrs fromStr addresses (convertToMultiaddrs fromStr addresses) ↔
      ∀ before address after, addresses = before ++ address :: after →
        Text.trim address = "\"" → ∃ b ∈ before, ¬ Usable fromStr b := by
  rw [answersMultiaddrs_iff_not_isPanic, isPanic_convertToMultiaddrs_iff]
  constructor
  · intro hno before address after hsplit hlone
    by_contra hall
    refine hno ⟨before, address, after, hsplit, hlone, fun b hb => ?_⟩
    by_contra hu
    exact hall ⟨b, hb, hu⟩
  · rintro h ⟨before, address, after, hsplit, hlone, hbefore⟩
    obtain ⟨b, hb, hu⟩ := h before address after hsplit hlone
    exact hu (hbefore b hb)

variable (fromStr)

/-- **The conversion panics on lone quotes alone**: where none comes before an address that is
refused it answers as it should, and quoting an address makes no difference unless the address is a
lone quote. -/
theorem convertToMultiaddrs_iff :
    (∀ addresses, AnswersMultiaddrs fromStr addresses (convertToMultiaddrs fromStr addresses) ↔
      ∀ before address after, addresses = before ++ address :: after →
        Text.trim address = "\"" → ∃ b ∈ before, ¬ Usable fromStr b) ∧
    ∀ address, address ≠ "" → Text.trim address = address → (¬ ∃ t, address = quoted t) →
      ((∀ before after, convertToMultiaddrs fromStr (before ++ quoted address :: after) =
          convertToMultiaddrs fromStr (before ++ address :: after)) ↔ address ≠ "\"") := by
  refine ⟨fun addresses => answersMultiaddrs_iff, fun address hne htrim hno => ⟨?_, ?_⟩⟩
  · rintro h rfl
    have hsame := h [] []
    have hlone := (isPanic_convertAddress_iff fromStr).mpr htrim
    have hquoted := isPanic_convertAddress_quoted_lone fromStr
    rw [← Outcome.isPanic_traverse_singleton, show Outcome.traverse (convertAddress fromStr)
      [quoted "\""] = Outcome.traverse (convertAddress fromStr) ["\""] from hsame,
      Outcome.isPanic_traverse_singleton, hlone] at hquoted
    exact absurd hquoted (by simp)
  · intro hlone before after
    exact Outcome.traverse_congr_at (convertAddress_quoted hne htrim hno hlone) before after

/-- The boot node in the documentation of `GraphcastAgent::new`. -/
def bootNode : String :=
  "/ip4/127.0.0.1/tcp/60000/p2p/16Uiu2YAmDEieEqD5dHSG85G8H51FUKByWoZx7byMy9AbMEgjd5iz"

/-- A parser of the addresses that start with a slash. -/
def parsesPaths (s : String) : Except String String :=
  if Text.startsWith s '/' then .ok s else .error "invalid multiaddr"

/-- It comes to the same with quotes and without, before other addresses. A lone quote does no harm
behind an address that is refused. -/
theorem convertToMultiaddrs_iff_quoted :
    convertToMultiaddrs parsesPaths ([] ++ quoted bootNode :: ["/dns4/localhost/tcp/60000"]) =
      convertToMultiaddrs parsesPaths ([] ++ bootNode :: ["/dns4/localhost/tcp/60000"]) ∧
    AnswersMultiaddrs parsesPaths [quoted bootNode, "localhost", "\""]
      (convertToMultiaddrs parsesPaths [quoted bootNode, "localhost", "\""]) := by
  have hno : ¬ ∃ t, bootNode = quoted t := by
    rw [exists_quoted_iff]
    rintro ⟨cs, hcs⟩
    exact absurd (List.cons.inj hcs).1 (by decide)
  have hrefused : ¬ Usable parsesPaths "localhost" :=
    (not_usable_of_convertAddress (show convertAddress parsesPaths "localhost" =
      .err (.validateInput "invalid multiaddr") by decide)).1
  refine ⟨((convertToMultiaddrs_iff parsesPaths).2 bootNode (by decide) (by decide) hno).mpr
    (by decide) [] _, ((convertToMultiaddrs_iff parsesPaths).1 _).mpr ?_⟩
  intro before address after hsplit hlone
  obtain _ | ⟨first, _ | ⟨second, before⟩⟩ := before
  · obtain ⟨rfl, -⟩ := List.cons.inj hsplit
    exact absurd hlone (by decide)
  · obtain ⟨rfl, -⟩ := List.cons.inj (List.cons.inj hsplit).2
    exact absurd hlone (by decide)
  · obtain ⟨rfl, -⟩ := List.cons.inj (List.cons.inj hsplit).2
    exact ⟨"localhost", by simp, hrefused⟩

/-- A lone quote in the place of an address panics. -/
theorem lone_quote_panics :
    ¬ AnswersMultiaddrs (A := Unit) (fun _ => .error "invalid multiaddr") ["\""]
      (convertToMultiaddrs (fun _ => .error "invalid multiaddr") ["\""]) ∧
    (convertToMultiaddrs (A := Unit) (fun _ => .error "invalid multiaddr") ["\""]).isPanic =
      true := by
  have hpanic : (convertToMultiaddrs (A := Unit) (fun _ => .error "invalid multiaddr")
      ["\""]).isPanic = true := by
    decide
  refine ⟨fun h => ?_, hpanic⟩
  obtain ⟨b, hb, -⟩ := answersMultiaddrs_iff.mp h [] "\"" [] rfl (by decide)
  exact absurd hb (by simp)

end GraphcastSdk
