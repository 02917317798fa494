import Mathlib.Tactic.IntervalCases
import ScriptGraph.Proofs.DecimalText
import ScriptGraph.Ron.Literal

/-! The smallest parts of a document are read as what they were written for: indentation, names,
strings and numbers. Each is read off the front of a longer text, so what stands behind it matters:
behind a value that is a comma, a closing parenthesis or nothing. -/
namespace ScriptGraph

namespace Ron

/-- Whether a value may begin with the character, which no blank, comment, attribute or closing
bracket does. -/
def beginsValue (c : Char) : Bool := !isBlank c && !(['/', '#', ')', ']', '\x7d'].contains c)

/-- The text begins as a value does. -/
def Opens (cs : List Char) : Prop := cs.head?.any beginsValue = true

lemma Opens.exists_cons {cs : List Char} (h : Opens cs) :
    ∃ c rest, cs = c :: rest ∧ beginsValue c = true := by
  cases cs with
  | nil => cases h
  | cons c rest => exact ⟨c, rest, rfl, h⟩

lemma Opens.append {cs : List Char} (h : Opens cs) (rest : List Char) : Opens (cs ++ rest) := by
  obtain ⟨c, cs, rfl, hc⟩ := h.exists_cons
  exact hc

lemma skipBlanks_cons {c : Char} (hblank : isBlank c = false) (hslash : (c == '/') = false)
    (rest : List Char) : skipBlanks (c :: rest) = some (c :: rest) := by
  unfold skipBlanks
  rw [skipFrom.eq_def]
  split <;> simp_all

lemma Opens.skipBlanks {cs : List Char} (h : Opens cs) : skipBlanks cs = some cs := by
  obtain ⟨c, rest, rfl, hc⟩ := h.exists_cons
  simp only [beginsValue, Bool.and_eq_true, Bool.not_eq_true', List.contains_eq_mem, List.mem_cons,
    decide_eq_false_iff_not, not_or] at hc
  exact skipBlanks_cons hc.1 (beq_false_of_ne hc.2.1) rest

lemma Opens.head_ne {cs : List Char} (h : Opens cs) {c : Char} (hc : beginsValue c = false) :
    cs.head? ≠ some c := by
  obtain ⟨d, rest, rfl, hd⟩ := h.exists_cons
  rintro ⟨⟩
  rw [hc] at hd
  cases hd

lemma skipBlanks_space (cs : List Char) : skipBlanks (' ' :: cs) = skipBlanks cs := by
  rfl

lemma skipBlanks_spaces (n : Nat) (cs : List Char) :
    skipBlanks (List.replicate n ' ' ++ cs) = skipBlanks cs := by
  induction n with
  | zero => rfl
  | succ n ih => rw [List.replicate_succ, List.cons_append, skipBlanks_space, ih]

lemma skipBlanks_newline (level : Nat) (cs : List Char) :
    skipBlanks (newline level ++ cs) = skipBlanks cs :=
  skipBlanks_spaces (4 * level) cs

/-- What stands behind a value: a comma, a closing parenthesis or nothing. -/
def Delimited (rest : List Char) : Prop := ∀ c ∈ rest.head?, c = ',' ∨ c = ')'

lemma Delimited.head_any {rest : List Char} (h : Delimited rest) {p : Char → Bool}
    (hcomma : p ',' = false) (hclose : p ')' = false) : rest.head?.any p = false := by
  cases rest with
  | nil => rfl
  | cons c rest =>
    rcases h c rfl with rfl | rfl
    · exact hcomma
    · exact hclose

lemma Delimited.head_ne {rest : List Char} (h : Delimited rest) {c : Char} (hcomma : c ≠ ',')
    (hclose : c ≠ ')') : rest.head? ≠ some c := by
  intro he
  rcases h c he with rfl | rfl
  · exact hcomma rfl
  · exact hclose rfl

lemma delimited_nil : Delimited [] := by simp [Delimited]

lemma delimited_comma (rest : List Char) : Delimited (',' :: rest) := by simp [Delimited]

lemma delimited_close (rest : List Char) : Delimited (')' :: rest) := by simp [Delimited]

/-- Whether a text is an identifier, and no raw one. -/
def isName (name : String) : Bool :=
  name.toList.head?.any isIdentifierStart && name.toList.all isIdentifierPart

lemma takeName_append {name : String} {rest : List Char}
    (h : rest.head?.any isIdentifierPart = false) :
    takeName name (name.toList ++ rest) = some rest := by
  have hdrop : (name.toList ++ rest).drop name.length = rest := by
    rw [← String.length_toList, List.drop_left]
  have hprefix : name.toList.isPrefixOf (name.toList ++ rest) = true := by simp
  unfold takeName
  dsimp only
  rw [hdrop, hprefix, h]
  rfl

lemma takeName_eq_none {name : String} {cs : List Char}
    (h : name.toList.isPrefixOf cs = false) : takeName name cs = none := by
  unfold takeName
  dsimp only
  rw [h]
  rfl

lemma takeName_of_head {name : String} {cs : List Char} {c : Char}
    (hname : name.toList.head? = some c) (hcs : cs.head? ≠ some c) : takeName name cs = none := by
  apply takeName_eq_none
  obtain ⟨tail, htail⟩ := List.head?_eq_some_iff.mp hname
  rw [htail]
  cases cs with
  | nil => rfl
  | cons d cs =>
    have hne : c ≠ d := by
      rintro rfl
      exact hcs rfl
    rw [List.isPrefixOf_cons_cons, beq_false_of_ne hne, Bool.false_and]

lemma takeName_delimited {name : String} {rest : List Char} (hname : isName name = true)
    (hrest : Delimited rest) : takeName name rest = none := by
  have hstart := ((Bool.and_eq_true ..).mp hname).1
  obtain ⟨c, hc⟩ : ∃ c, name.toList.head? = some c := by
    cases h : name.toList.head? with
    | none => simp [h] at hstart
    | some c => exact ⟨c, rfl⟩
  rw [hc] at hstart
  refine takeName_of_head hc (hrest.head_ne ?_ ?_) <;> rintro rfl <;> cases hstart

lemma identifierPart_ne {c d : Char} (hc : isIdentifierPart c = true)
    (hd : isIdentifierPart d = false) : c ≠ d := by
  rintro rfl
  rw [hc] at hd
  cases hd

/-- No quote or hash goes on in a name, nor stands behind one. -/
lemma exists_next {part : List Char} (hpart : part.all isIdentifierPart = true) {c : Char}
    (hc : c = ':' ∨ c = '(') (rest : List Char) :
    ∃ d ds, part ++ c :: rest = d :: ds ∧ d ≠ '"' ∧ d ≠ '\'' ∧ d ≠ '#' := by
  cases part with
  | nil => rcases hc with rfl | rfl <;> exact ⟨_, _, rfl, by simp, by simp, by simp⟩
  | cons d part =>
    have hd : isIdentifierPart d = true := by
      rw [List.all_cons, Bool.and_eq_true] at hpart
      exact hpart.1
    exact ⟨d, _, rfl, identifierPart_ne hd rfl, identifierPart_ne hd rfl, identifierPart_ne hd rfl⟩

lemma beginsLiteral_name {a : Char} {part : List Char} (hpart : part.all isIdentifierPart = true)
    {c : Char} (hc : c = ':' ∨ c = '(') (rest : List Char) :
    beginsLiteral (a :: (part ++ c :: rest)) = false := by
  obtain ⟨d, ds, hnext, hquote, htick, hhash⟩ := exists_next hpart hc rest
  have hraw : d = 'r' → ∃ e es, ds = e :: es ∧ e ≠ '"' ∧ e ≠ '#' := by
    rintro rfl
    cases part with
    | nil => rcases hc with rfl | rfl <;> cases hnext
    | cons b part =>
      rw [List.all_cons, Bool.and_eq_true] at hpart
      obtain ⟨e, es, hsecond, he, _, he'⟩ := exists_next hpart.2 hc rest
      rw [List.cons_append, hsecond, List.cons.injEq] at hnext
      exact ⟨e, es, hnext.2.symm, he, he'⟩
  rw [hnext]
  unfold beginsLiteral
  split <;> simp_all

lemma readIdentifier?_name {name : String} (hname : isName name = true) {c : Char}
    (hc : c = ':' ∨ c = '(') (rest : List Char) :
    readIdentifier? (name.toList ++ c :: rest) = some (name, c :: rest) := by
  obtain ⟨hstart, hall⟩ := (Bool.and_eq_true ..).mp hname
  have hstop : (c :: rest).head?.any isIdentifierPart = false := by
    rcases hc with rfl | rfl <;> rfl
  have hback : String.ofList name.toList = name := String.ofList_toList
  generalize name.toList = cs at hstart hall hback ⊢
  cases cs with
  | nil => cases hstart
  | cons a part =>
    rw [List.all_cons, Bool.and_eq_true] at hall
    obtain ⟨htake, hdrop⟩ := span_of_stop (fun x hx => List.all_eq_true.mp hall.2 x hx) hstop
    obtain ⟨d, ds, hnext, _, _, hhash⟩ := exists_next hall.2 hc rest
    unfold readIdentifier?
    rw [List.cons_append, beginsLiteral_name hall.2 hc rest]
    simp only [Bool.false_eq_true, if_false]
    split
    · next h =>
      rw [hnext, List.cons.injEq, List.cons.injEq] at h
      exact absurd h.2.1 hhash
    · next h =>
      cases h
      rw [if_pos (by simpa using hstart), htake, hdrop, hback]
    · next h => cases h

lemma plainName_of_isName {name : String} (hname : isName name = true) : plainName name = name := by
  unfold plainName
  split
  · next rest h =>
    rw [isName, h] at hname
    cases hname
  · rfl

lemma stringBody_hexChars (v k : Nat) (ds : List Nat) (hds : ∀ d ∈ ds, d < 16)
    (hk : k + ds.length ≤ 6) (rest : List Char) :
    stringBody false (.code v k) (ds.map hexChar ++ rest) =
      stringBody false (.code (ds.foldl (fun acc d => acc * 16 + d) v) (k + ds.length)) rest := by
  induction ds generalizing v k with
  | nil => rfl
  | cons d ds ih =>
    rw [List.forall_mem_cons] at hds
    rw [List.length_cons] at hk
    have hbrace : hexChar d ≠ '\x7d' := by
      intro h
      have := charHex?_hexChar hds.1
      rw [h] at this
      cases this
    rw [List.map_cons, List.cons_append, stringBody, if_neg hbrace, charHex?_hexChar hds.1]
    simp only [if_pos (show k < 6 by omega)]
    rw [ih _ _ hds.2 (by omega), List.foldl_cons, List.length_cons]
    congr 2
    omega

/-- The digits of a code point. -/
lemma exists_hexDigits (n : Nat) : ∃ ds : List Nat, (∀ d ∈ ds, d < 16) ∧ ds ≠ [] ∧
    hexText n = ds.map hexChar ∧ ds.foldl (fun acc d => acc * 16 + d) 0 = n ∧
    ∀ k, 0 < k → n < 16 ^ k → ds.length ≤ k := by
  fun_induction hexText n with
  | case1 n hn => exact ⟨[n], by simpa using hn, by simp, rfl, by simp, fun k hk _ => hk⟩
  | case2 n hn ih =>
    obtain ⟨ds, hsmall, hne, htext, hvalue, hlen⟩ := ih
    refine ⟨ds ++ [n % 16], ?_, by simp, by simp [htext], ?_, ?_⟩
    · intro d hd
      rcases List.mem_append.mp hd with hd | hd
      · exact hsmall d hd
      · rw [List.mem_singleton] at hd
        omega
    · rw [List.foldl_append, hvalue, List.foldl_cons, List.foldl_nil]
      omega
    · intro k hk hlt
      obtain ⟨k, rfl⟩ := Nat.exists_eq_add_of_lt hk
      rw [Nat.zero_add] at hlt ⊢
      rw [pow_succ] at hlt
      have hpos : 0 < k := by
        by_contra hzero
        obtain rfl : k = 0 := by omega
        omega
      have := hlen k hpos (by omega)
      rw [List.length_append, List.length_singleton]
      omega

lemma stringBody_simpleEscape {letter c : Char} (h : simpleEscape? letter = some c)
    (rest : List Char) :
    stringBody false .plain ('\\' :: letter :: rest) =
      (stringBody false .plain rest).map (consChar c) := by
  have hu : letter ≠ 'u' := by
    rintro rfl
    cases h
  have hx : letter ≠ 'x' := by
    rintro rfl
    cases h
  rw [stringBody]
  · simp only [h]
  · exact fun _ hletter => absurd hletter hu
  · exact fun _ _ _ hletter => absurd hletter hx
  · exact hx

/-- A character is written as a letter behind a backslash, by its code, or as it stands. -/
lemma escapeChar_cases (c : Char) :
    (∃ letter, simpleEscape? letter = some c ∧ escapeChar c = ['\\', letter]) ∨
      escapeChar c = ['\\', 'u', '\x7b'] ++ hexText c.toNat ++ ['\x7d'] ∨
      c ≠ '\\' ∧ c ≠ '"' ∧ escapeChar c = [c] := by
  by_cases hc : c ∈ [Char.ofNat 0, '\t', '\r', '\n', '\\', '"', '\'']
  · simp only [List.mem_cons, List.not_mem_nil, or_false] at hc
    rcases hc with rfl | rfl | rfl | rfl | rfl | rfl | rfl
    · exact .inl ⟨'0', rfl, rfl⟩
    · exact .inl ⟨'t', rfl, rfl⟩
    · exact .inl ⟨'r', rfl, rfl⟩
    · exact .inl ⟨'n', rfl, rfl⟩
    · exact .inl ⟨'\\', rfl, rfl⟩
    · exact .inl ⟨'"', rfl, rfl⟩
    · exact .inl ⟨'\'', rfl, rfl⟩
  · simp only [List.mem_cons, List.not_mem_nil, or_false, not_or] at hc
    obtain ⟨hzero, ht, hr, hn, hslash, hquote, hsingle⟩ := hc
    have hzero' : c.toNat ≠ 0 := fun h => hzero (by rw [← h, Char.ofNat_toNat])
    rw [escapeChar, if_neg hzero', if_neg ht, if_neg hr, if_neg hn, if_neg hslash, if_neg hquote,
      if_neg hsingle]
    split
    · exact .inr (.inl rfl)
    · exact .inr (.inr ⟨hslash, hquote, rfl⟩)

lemma stringBody_escapeChar (c : Char) (rest : List Char) :
    stringBody false .plain (escapeChar c ++ rest) =
      (stringBody false .plain rest).map (consChar c) := by
  rcases escapeChar_cases c with ⟨letter, hread, he⟩ | he | ⟨hslash, hquote, he⟩
  · rw [he]
    exact stringBody_simpleEscape hread rest
  · obtain ⟨ds, hsmall, hne, htext, hvalue, hlen⟩ := exists_hexDigits c.toNat
    have hvalid : c.toNat.isValidChar := c.valid
    have hsix : ds.length ≤ 6 := by
      apply hlen 6 (by decide)
      unfold Nat.isValidChar at hvalid
      omega
    have hcode : charOfCode? c.toNat = some c := by
      rw [charOfCode?, if_pos hvalid, Char.ofNat_toNat]
    rw [he]
    simp only [List.cons_append, List.nil_append, List.append_assoc]
    rw [stringBody, htext, stringBody_hexChars 0 0 ds hsmall (by omega), hvalue, stringBody,
      if_pos rfl, if_neg (by simpa using hne), hcode]
  · rw [he, List.singleton_append, stringBody.eq_def]
    split <;> simp_all

lemma readString?_quoted (s : String) (rest : List Char) :
    readString? (quoted s ++ rest) = some (s, rest) := by
  have hbody (cs : List Char) :
      stringBody false .plain (cs.flatMap escapeChar ++ '"' :: rest) = .ok (cs, rest) := by
    induction cs with
    | nil => simp [stringBody]
    | cons c cs ih =>
      rw [List.flatMap_cons, List.append_assoc, stringBody_escapeChar, ih]
      rfl
  have hread : readString (quoted s ++ rest) = .ok (s.toList, rest) := by
    rw [← hbody s.toList]
    simp [quoted, readString]
  rw [readString?, hread]
  simp [Except.toOption]

lemma opens_quoted (s : String) : Opens (quoted s) := rfl

lemma digitChar_classes : ∀ d < 10, isIntChar (digitChar d) = true ∧
    isFloatChar (digitChar d) = true ∧ beginsValue (digitChar d) = true ∧
      charHex? (digitChar d) = some d := by decide

lemma digitChar_ne : ∀ d < 10, digitChar d ∉ ['_', 'x', 'b', 'o'] := by decide

section Digits

variable {ds : List Nat} {rest : List Char}

lemma forall_mem_digitChars (p : Char → Prop) (h : ∀ d < 10, p (digitChar d))
    (hds : ∀ d ∈ ds, d < 10) : ∀ c ∈ digitChars ds, p c := by
  intro c hc
  obtain ⟨d, hd, rfl⟩ := List.mem_map.mp hc
  exact h d (hds d hd)

lemma opens_digitChars (hne : ds ≠ []) (hds : ∀ d ∈ ds, d < 10) : Opens (digitChars ds) := by
  obtain ⟨d, ds, rfl⟩ := List.exists_cons_of_ne_nil hne
  exact (digitChar_classes d (hds d (List.mem_cons_self ..))).2.2.1

/-- No letter that announces a base comes second. -/
lemma ne_base (hds : ∀ d ∈ ds, d < 10) (hne : ds ≠ []) (hrest : Delimited rest) {c : Char}
    (hc : c ∈ ['x', 'b', 'o']) (tail : List Char) : digitChars ds ++ rest ≠ '0' :: c :: tail := by
  match ds with
  | [d] =>
    intro h
    obtain rfl : rest = c :: tail := (List.cons.inj h).2
    exact hrest.head_ne (by rintro rfl; simp at hc) (by rintro rfl; simp at hc) rfl
  | d :: e :: ds =>
    intro h
    have he : digitChar e = c := (List.cons.inj (List.cons.inj h).2).1
    have hne := digitChar_ne e (hds e (by simp))
    rw [he] at hne
    simp only [List.mem_cons] at hc hne
    tauto

lemma takeBase_digitChars (hds : ∀ d ∈ ds, d < 10) (hne : ds ≠ []) (hrest : Delimited rest) :
    takeBase (digitChars ds ++ rest) = (10, digitChars ds ++ rest) := by
  unfold takeBase
  split
  · next h => exact absurd h (ne_base hds hne hrest (by simp) _)
  · next h => exact absurd h (ne_base hds hne hrest (by simp) _)
  · next h => exact absurd h (ne_base hds hne hrest (by simp) _)
  · rfl

lemma digitsInBase?_digitChars (hds : ∀ d ∈ ds, d < 10) :
    digitsInBase? 10 (digitChars ds) = some (digitsValue ds) := by
  have hkeep : (digitChars ds).filter (fun c => c ≠ '_') = digitChars ds := by
    refine List.filter_eq_self.mpr (forall_mem_digitChars _ (fun d hd => ?_) hds)
    have := digitChar_ne d hd
    simp only [List.mem_cons, not_or] at this
    simpa using this.1
  have hfold (acc : Nat) : (digitChars ds).foldlM (fun acc c =>
      ((charHex? c).filter fun d => d < 10).map (acc * 10 + ·)) acc =
        some (ds.foldl (fun acc d => acc * 10 + d) acc) := by
    clear hkeep
    induction ds generalizing acc with
    | nil => rfl
    | cons d ds ih =>
      rw [List.forall_mem_cons] at hds
      have hd := (digitChar_classes d hds.1).2.2.2
      simp only [digitChars, List.map_cons, List.foldlM_cons, List.foldl_cons] at ih ⊢
      rw [hd]
      simpa [Option.filter, hds.1] using ih hds.2 _
  unfold digitsInBase?
  rw [hkeep, hfold]
  rfl

lemma takeSuffix?_delimited (hrest : Delimited rest) : takeSuffix? rest = none := by
  have hnames : ∀ t ∈ integerTypes, isName t.suffix = true := by decide
  refine List.findSome?_eq_none_iff.mpr fun t ht => ?_
  rw [takeName_delimited (hnames t ht) hrest, Option.map_none]

lemma readInteger?_natChars (negative : Bool) (n : Nat) (hrest : Delimited rest) :
    readInteger? ((if negative then ['-'] else []) ++ natChars n ++ rest) =
      some (⟨if negative then -(n : Int) else n, none⟩, rest) := by
  have hds := decimalDigits_lt_ten n
  have hne := decimalDigits_ne_nil n
  have hsign : DecimalLiteral.takeSign ((if negative then ['-'] else []) ++
      digitChars (decimalDigits n) ++ rest) =
        (negative, digitChars (decimalDigits n) ++ rest) := by
    cases negative with
    | true => rfl
    | false =>
      obtain ⟨d, ds, h⟩ := List.exists_cons_of_ne_nil hne
      rw [h] at hds ⊢
      exact DecimalLiteral.takeSign_of_isDigit (isDigit_digitChar (hds d (List.mem_cons_self ..))) _
  have hrun : ∀ c ∈ digitChars (decimalDigits n), isIntChar c = true :=
    forall_mem_digitChars _ (fun d hd => (digitChar_classes d hd).1) hds
  have hstop := hrest.head_any (p := isIntChar) rfl rfl
  obtain ⟨htake, hdrop⟩ := span_of_stop hrun hstop
  have hdigits : readDigits? (digitChars (decimalDigits n) ++ rest) = some (n, rest) := by
    have hfirst : (digitChars (decimalDigits n)).head? ≠ some '_' := by
      obtain ⟨d, ds, h⟩ := List.exists_cons_of_ne_nil hne
      have hd := digitChar_ne d (hds d (by simp [h]))
      rw [h]
      simp only [List.mem_cons, not_or] at hd
      simpa [digitChars] using hd.1
    unfold readDigits?
    dsimp only
    rw [takeBase_digitChars hds hne hrest]
    dsimp only
    rw [htake, hdrop, digitsInBase?_digitChars hds, digitsValue_decimalDigits,
      if_neg (by simpa [digitChars, hne] using hfirst)]
    rfl
  have hchars : natChars n = digitChars (decimalDigits n) := rfl
  rw [hchars]
  simp only [readInteger?, hsign, hdigits, hdrop, takeSuffix?_delimited hrest, Option.bind_eq_bind,
    Option.bind_some]

end Digits

lemma takeName_append_eq_none {name : String} {cs : List Char}
    (h : name.toList.isPrefixOf cs = false) (suffix : String) :
    takeName (name ++ suffix) cs = none := by
  apply takeName_eq_none
  rw [Bool.eq_false_iff, ne_eq, List.isPrefixOf_iff_prefix] at h ⊢
  rw [String.toList_append]
  exact fun hlong => h ((List.prefix_append _ _).trans hlong)

lemma readNamedFloat?_step {n : String × Single} {cs : List Char}
    (h : n.1.toList.isPrefixOf cs = false) :
    (match takeName n.1 cs with
      | some rest => some ((⟨n.2, none⟩ : FloatLiteral), rest)
      | none =>
        [FloatSuffix.single, .double].findSome? fun s =>
          (takeName (n.1 ++ s.text) cs).map fun rest => (⟨n.2, some s⟩, rest)) = none := by
  rw [takeName_eq_none h]
  refine List.findSome?_eq_none_iff.mpr fun s _ => ?_
  rw [takeName_append_eq_none h, Option.map_none]

/-- The words before the one that stands there are passed over. -/
lemma readNamedFloat?_of_word {before after : List (String × Single)} {word : String} {x : Single}
    {rest : List Char} (hsplit : namedFloats = before ++ (word, x) :: after)
    (hbefore : ∀ n ∈ before, n.1.toList.isPrefixOf (word.toList ++ rest) = false)
    (hrest : Delimited rest) :
    readNamedFloat? (word.toList ++ rest) = some (⟨x, none⟩, rest) := by
  have hfound : takeName word (word.toList ++ rest) = some rest :=
    takeName_append (hrest.head_any rfl rfl)
  unfold readNamedFloat?
  rw [hsplit, List.findSome?_append]
  refine (congrArg (Option.or · _) (List.findSome?_eq_none_iff.mpr fun n hn =>
    readNamedFloat?_step (hbefore n hn))).trans ?_
  simp [hfound]

lemma readNamedFloat?_eq_none {cs : List Char}
    (h : ∀ n ∈ namedFloats, n.1.toList.isPrefixOf cs = false) : readNamedFloat? cs = none :=
  List.findSome?_eq_none_iff.mpr fun n hn => readNamedFloat?_step (h n hn)

lemma word_isPrefixOf_digitChar {d : Nat} (hd : d < 10) (tail : List Char) :
    ∀ n ∈ namedFloats, n.1.toList.isPrefixOf (digitChar d :: tail) = false ∧
      n.1.toList.isPrefixOf ('-' :: digitChar d :: tail) = false := by
  intro n hn
  simp only [namedFloats, List.mem_cons, List.not_mem_nil, or_false] at hn
  rcases hn with rfl | rfl | rfl | rfl | rfl | rfl <;> interval_cases d <;> exact ⟨rfl, rfl⟩

lemma dropUnderscores_eq {cs : List Char} (h : '_' ∉ cs) (allowed : Bool) :
    dropUnderscores allowed cs = some cs := by
  induction cs generalizing allowed with
  | nil => rfl
  | cons c cs ih =>
    simp only [List.mem_cons, not_or] at h
    rw [dropUnderscores, if_neg (Ne.symm h.1)]
    simp only [ih h.2, Option.map_some]

lemma takeFloatSuffix?_delimited {rest : List Char} (hrest : Delimited rest) :
    takeFloatSuffix? rest = none := by
  refine List.findSome?_eq_none_iff.mpr fun s _ => ?_
  have hname : isName s.text = true := by cases s <;> rfl
  rw [takeName_delimited hname hrest, Option.map_none]

/-- Digits on both sides of a point are read as a decimal. -/
lemma readFloat?_digitChars {front back : List Nat} {rest : List Char} (hfront : front ≠ [])
    (hdigits : ∀ d ∈ front ++ back, d < 10) (hrest : Delimited rest) (negative : Bool) :
    readFloat? ((if negative then ['-'] else []) ++ digitChars front ++ '.' :: digitChars back ++
      rest) = some (⟨Single.ofDecimal ⟨negative, digitChars (front ++ back), -(back.length : Int)⟩,
        none⟩, rest) := by
  have hnamed : readNamedFloat? ((if negative then ['-'] else []) ++ digitChars front ++
      '.' :: digitChars back ++ rest) = none := by
    obtain ⟨d, ds, rfl⟩ := List.exists_cons_of_ne_nil hfront
    have hd : d < 10 := hdigits d (by simp)
    refine readNamedFloat?_eq_none fun n hn => ?_
    obtain ⟨hplus, hminus⟩ := word_isPrefixOf_digitChar hd
      (digitChars ds ++ '.' :: digitChars back ++ rest) n hn
    cases negative with
    | true => simpa [digitChars] using hminus
    | false => simpa [digitChars] using hplus
  have hfloat : ∀ c ∈ (if negative then ['-'] else []) ++ digitChars front ++
      '.' :: digitChars back, isFloatChar c = true ∧ c ≠ '_' := by
    have hchar : ∀ d < 10, isFloatChar (digitChar d) = true ∧ digitChar d ≠ '_' := by decide
    rw [List.forall_mem_append] at hdigits
    intro c hc
    rw [List.mem_append, List.mem_append, List.mem_cons] at hc
    rcases hc with (hc | hc) | rfl | hc
    · cases negative with
      | true =>
        obtain rfl := List.mem_singleton.mp hc
        decide
      | false => cases hc
    · exact forall_mem_digitChars (fun c => isFloatChar c = true ∧ c ≠ '_') hchar hdigits.1 c hc
    · decide
    · exact forall_mem_digitChars (fun c => isFloatChar c = true ∧ c ≠ '_') hchar hdigits.2 c hc
  obtain ⟨htake, hdrop⟩ := span_of_stop (fun c hc => (hfloat c hc).1)
    (hrest.head_any (p := isFloatChar) rfl rfl)
  have hplain := dropUnderscores_eq (fun h => (hfloat '_' h).2 rfl) false
  unfold readFloat?
  rw [hnamed]
  simp only [readDecimal?, htake, hdrop, hplain, takeFloatSuffix?_delimited hrest,
    DecimalLiteral.read?_digitChars hfront hdigits, Option.bind_eq_bind, Option.bind_some]

end Ron

/-- A NaN comes back with its sign and without its payload, all else as it is. -/
def Single.plainNaN (x : Single) : Single :=
  if x.isNaN then ⟨if BinaryFormat.single.isNegative x.pattern then 0xffc00000 else 0x7fc00000⟩
  else x

namespace Ron

lemma decode_special {f : BinaryFormat} (bits : Nat) :
    (∀ negative payload, f.decode bits = .nan negative payload →
      f.isNaN bits = true ∧ f.isNegative bits = negative) ∧
    (∀ negative, f.decode bits = .infinite negative →
      f.isNaN bits = false ∧ f.isNegative bits = negative ∧ f.magnitude bits = f.infinity) ∧
    ∀ negative m e, f.decode bits = .finite negative m e → f.isNaN bits = false := by
  unfold BinaryFormat.decode BinaryFormat.isNaN
  dsimp only
  split
  · next h => simp [h]
  · next h =>
    split
    · next heq => simp [heq]
    · split <;> simp [h]

lemma plainNaN_of_nan {x : Single} {negative : Bool} {payload : Nat}
    (hx : BinaryFormat.single.decode x.pattern = .nan negative payload) :
    x.plainNaN = ⟨if negative then 0xffc00000 else 0x7fc00000⟩ := by
  obtain ⟨hnan, _⟩ := decode_special (f := .single) x.pattern
  obtain ⟨hisNaN, hsign⟩ := hnan negative payload hx
  rw [Single.plainNaN, Single.isNaN, hisNaN, if_pos rfl, hsign]

lemma plainNaN_of_infinite {x : Single} {negative : Bool}
    (hx : BinaryFormat.single.decode x.pattern = .infinite negative) :
    x.plainNaN = ⟨if negative then 0xff800000 else 0x7f800000⟩ := by
  obtain ⟨_, hinfinite, _⟩ := decode_special (f := .single) x.pattern
  obtain ⟨hisNaN, hsign, hsize⟩ := hinfinite negative hx
  have hrange : x.pattern < 2 * BinaryFormat.single.signBit := x.bits.toNat_lt
  have hwhole := BinaryFormat.withSign_magnitude hrange
  rw [hsign, hsize] at hwhole
  have hbits : x.bits.toNat = (if negative then 0xff800000 else 0x7f800000 : UInt32).toNat := by
    rw [← Single.pattern, ← hwhole]
    cases negative <;> rfl
  rw [Single.plainNaN, Single.isNaN, hisNaN, if_neg Bool.false_ne_true]
  exact congrArg Single.mk (UInt32.toNat_inj.mp hbits)

lemma plainNaN_of_finite {x : Single} {negative : Bool} {m : Nat} {e : Int}
    (hx : BinaryFormat.single.decode x.pattern = .finite negative m e) : x.plainNaN = x := by
  obtain ⟨_, _, hfinite⟩ := decode_special (f := .single) x.pattern
  rw [Single.plainNaN, Single.isNaN, hfinite negative m e hx, if_neg Bool.false_ne_true]

lemma write_cases (x : Single) :
    (∃ before after word, namedFloats = before ++ (word, x.plainNaN) :: after ∧
      (x.write floatLayout).toList = word.toList ∧ Opens word.toList ∧
      ∀ rest, ∀ n ∈ before, n.1.toList.isPrefixOf (word.toList ++ rest) = false) ∨
    ∃ (negative : Bool) (front back : List Nat), front ≠ [] ∧ (∀ d ∈ front ++ back, d < 10) ∧
      (x.write floatLayout).toList =
        (if negative then ['-'] else []) ++ digitChars front ++ '.' :: digitChars back ∧
      Single.ofDecimal ⟨negative, digitChars (front ++ back), -(back.length : Int)⟩ =
        x.plainNaN := by
  cases hx : BinaryFormat.single.decode x.pattern with
  | nan negative payload =>
    have htext : x.write floatLayout = if negative then "-NaN" else "NaN" := by
      rw [Single.write, FloatLayout.write, hx]
      rfl
    rw [plainNaN_of_nan hx, htext]
    -- No word of the table before this one begins it, so none is taken in its place.
    cases negative with
    | true => exact .inl ⟨namedFloats.take 5, [], "-NaN", rfl, rfl, rfl, by
        simp [namedFloats, List.isPrefixOf]⟩
    | false =>
      exact .inl ⟨namedFloats.take 3, namedFloats.drop 4, "NaN", rfl, rfl, rfl, by
        simp [namedFloats, List.isPrefixOf]⟩
  | infinite negative =>
    have htext : x.write floatLayout = if negative then "-inf" else "inf" := by
      rw [Single.write, FloatLayout.write, hx]
      rfl
    rw [plainNaN_of_infinite hx, htext]
    cases negative with
    | true =>
      exact .inl ⟨namedFloats.take 2, namedFloats.drop 3, "-inf", rfl, rfl, rfl, by
        simp [namedFloats, List.isPrefixOf]⟩
    | false => exact .inl ⟨[], namedFloats.drop 1, "inf", rfl, rfl, rfl, by simp⟩
  | finite negative m e =>
    obtain ⟨front, back, hfront, _, hdigits, htext, hvalue⟩ :=
      Single.write_finite (l := floatLayout) (fun _ => rfl) rfl hx
    exact .inr ⟨negative, front, back, hfront, hdigits, htext,
      hvalue.trans (plainNaN_of_finite hx).symm⟩

lemma opens_write (x : Single) : Opens (x.write floatLayout).toList := by
  rcases write_cases x with ⟨_, _, word, _, htext, hopens, _⟩ |
      ⟨negative, front, back, hfront, hdigits, htext, _⟩
  · rw [htext]
    exact hopens
  · rw [htext]
    cases negative with
    | true => rfl
    | false =>
      rw [List.forall_mem_append] at hdigits
      exact (opens_digitChars hfront hdigits.1).append _

lemma readFloat?_write (x : Single) {rest : List Char} (hrest : Delimited rest) :
    readFloat? ((x.write floatLayout).toList ++ rest) = some (⟨x.plainNaN, none⟩, rest) := by
  rcases write_cases x with ⟨before, after, word, hsplit, htext, _, hbefore⟩ |
      ⟨negative, front, back, hfront, hdigits, htext, hvalue⟩
  · rw [htext, readFloat?, readNamedFloat?_of_word hsplit (hbefore rest) hrest]
  · rw [htext, readFloat?_digitChars hfront hdigits hrest, hvalue]

end Ron

end ScriptGraph
