import Mathlib.Data.List.TakeWhile
import ScriptGraph.Json.Number
import ScriptGraph.Proofs.DecimalText

/-! The text of a JSON document is read as the document, as long as its numbers are numbers and its
strings stand for texts. A value is read off the front of a longer text; only behind a number does
it matter what follows, which is a comma, a new line or nothing. -/
namespace ScriptGraph

namespace Json

lemma skipBlanks_cons {c : Char} (h : isBlank c = false) (cs : List Char) :
    skipBlanks (c :: cs) = c :: cs := by
  simp [skipBlanks, h]

lemma isBlank_newline (indent : Nat) : ∀ c ∈ newline indent, isBlank c = true := by
  intro c hc
  rcases List.mem_cons.mp hc with rfl | hc
  · rfl
  · rw [List.eq_of_mem_replicate hc]
    rfl

lemma skipBlanks_newline (indent : Nat) (cs : List Char) :
    skipBlanks (newline indent ++ cs) = skipBlanks cs :=
  List.dropWhile_append_of_pos (isBlank_newline indent)

lemma readValue_congr {cs ds : List Char} (h : skipBlanks cs = skipBlanks ds) (fuel : Nat) :
    readValue fuel cs = readValue fuel ds := by
  cases fuel with
  | zero => simp only [readValue]
  | succ fuel => simp only [readValue, h]

/-- What follows does not go on with a number. -/
def EndsNumber (rest : List Char) : Prop := rest.head?.any isNumberChar = false

lemma endsNumber_newline (indent : Nat) (cs : List Char) : EndsNumber (newline indent ++ cs) := rfl

lemma isBlank_of_isNumberChar {c : Char} (h : isNumberChar c = true) : isBlank c = false := by
  rw [Bool.eq_false_iff]
  intro hb
  simp only [isBlank, Bool.or_eq_true, decide_eq_true_eq] at hb
  rcases hb with ((rfl | rfl) | rfl) | rfl <;> cases h

lemma isNumberChar_of_isDigit {c : Char} (h : isDigit c = true) : isNumberChar c = true := by
  simp [isNumberChar, h]

lemma isNumberChar_of_takeSign {cs : List Char}
    (h : (DecimalLiteral.takeSign cs).2.all isDigit = true) : ∀ c ∈ cs, isNumberChar c = true := by
  unfold DecimalLiteral.takeSign at h
  have hdigits {ds : List Char} (hds : ds.all isDigit = true) : ∀ c ∈ ds, isNumberChar c = true :=
    fun c hc => isNumberChar_of_isDigit (List.all_eq_true.mp hds c hc)
  split at h
  · exact List.forall_mem_cons.mpr ⟨rfl, hdigits h⟩
  · exact List.forall_mem_cons.mpr ⟨rfl, hdigits h⟩
  · exact hdigits h

lemma isNumberChar_of_readExponent? {cs : List Char} (h : (readExponent? cs).isSome = true) :
    ∀ c ∈ cs, isNumberChar c = true := by
  cases cs with
  | nil => nofun
  | cons e rest =>
    simp only [readExponent?] at h
    split at h
    · next hparts =>
      simp only [Bool.and_eq_true, Bool.or_eq_true, decide_eq_true_eq] at hparts
      obtain ⟨⟨hletter, -⟩, hrest⟩ := hparts
      refine List.forall_mem_cons.mpr ⟨?_, isNumberChar_of_takeSign hrest⟩
      rcases hletter with rfl | rfl <;> rfl
    · cases h

lemma isNumberChar_of_digits {cs : List Char}
    (h : ∀ c ∈ cs.dropWhile isDigit, isNumberChar c = true) : ∀ c ∈ cs, isNumberChar c = true := by
  intro c hc
  rw [← List.takeWhile_append_dropWhile (p := isDigit) (l := cs)] at hc
  rcases List.mem_append.mp hc with hc | hc
  · exact isNumberChar_of_isDigit (List.mem_takeWhile_imp hc)
  · exact h c hc

lemma isNumberChar_of_numberParts? {token : List Char} (h : (numberParts? token).isSome = true) :
    ∀ c ∈ token, isNumberChar c = true := by
  have hbody : ∀ c ∈ (if token.head? = some '-' then token.drop 1 else token),
      isNumberChar c = true := by
    unfold numberParts? at h
    dsimp only at h
    generalize (if token.head? = some '-' then token.drop 1 else token) = body at h ⊢
    refine isNumberChar_of_digits ?_
    split at h
    · cases h
    · split at h
      · next tail hrest =>
        split at h
        · cases h
        · rw [Option.isSome_map] at h
          rw [hrest]
          exact List.forall_mem_cons.mpr
            ⟨rfl, isNumberChar_of_digits (isNumberChar_of_readExponent? h)⟩
      · rw [Option.isSome_map] at h
        exact isNumberChar_of_readExponent? h
  cases token with
  | nil => nofun
  | cons c rest =>
    by_cases hsign : c = '-'
    · subst hsign
      exact List.forall_mem_cons.mpr ⟨rfl, hbody⟩
    · simpa [hsign] using hbody

/-- No other value begins like a number. -/
lemma readValue_number {token rest : List Char} (h : (numberParts? token).isSome = true)
    (hrest : EndsNumber rest) (fuel : Nat) :
    readValue (fuel + 1) (token ++ rest) = some (.number token, rest) := by
  have hchars := isNumberChar_of_numberParts? h
  obtain ⟨htake, hdrop⟩ := span_of_stop hchars hrest
  cases token with
  | nil => cases h
  | cons c cs =>
    have hc : isNumberChar c = true := hchars c List.mem_cons_self
    rw [List.cons_append] at htake hdrop ⊢
    unfold readValue
    rw [skipBlanks_cons (isBlank_of_isNumberChar hc)]
    split
    case h_1 he => cases he
    case h_8 he =>
      cases he
      simp only [htake, hdrop, h, if_true]
    -- the other values begin with characters that no number has
    all_goals
      next he =>
        cases he
        cases hc

lemma readHex?_control (n : Fin 32) : readHex? ((hexDigits 4 n).map hexChar) = some n.val := by
  revert n
  decide

lemma stringBody_simpleEscape {letter c : Char} (h : simpleEscape? letter = some c)
    (cs : List Char) :
    stringBody none ('\\' :: letter :: cs) = (stringBody none cs).map (consChar c) := by
  have hu : letter ≠ 'u' := by
    rintro rfl
    cases h
  rw [stringBody.eq_def]
  split
  case h_3 he =>
    cases he
    exact absurd rfl hu
  case h_4 he =>
    cases he
    simp [h]
  case h_5 hslash he =>
    cases he
    exact absurd rfl (hslash _ _ rfl)
  all_goals
    next he => cases he

/-- A character is written as a letter behind a backslash, by its code if it is another control
character, or as it stands. -/
lemma escapeChar_cases (c : Char) :
    (∃ letter, simpleEscape? letter = some c ∧ escapeChar c = ['\\', letter]) ∨
      c.toNat < 32 ∧ escapeChar c = ['\\', 'u'] ++ (hexDigits 4 c.toNat).map hexChar ∨
      ¬ c.toNat < 32 ∧ c ≠ '"' ∧ c ≠ '\\' ∧ escapeChar c = [c] := by
  by_cases hc : c ∈ ['"', '\\', '\n', '\r', '\t', Char.ofNat 8, Char.ofNat 12]
  · simp only [List.mem_cons, List.not_mem_nil, or_false] at hc
    rcases hc with rfl | rfl | rfl | rfl | rfl | rfl | rfl
    · exact .inl ⟨'"', rfl, rfl⟩
    · exact .inl ⟨'\\', rfl, rfl⟩
    · exact .inl ⟨'n', rfl, rfl⟩
    · exact .inl ⟨'r', rfl, rfl⟩
    · exact .inl ⟨'t', rfl, rfl⟩
    · exact .inl ⟨'b', rfl, rfl⟩
    · exact .inl ⟨'f', rfl, rfl⟩
  · simp only [List.mem_cons, List.not_mem_nil, or_false, not_or] at hc
    obtain ⟨hquote, hslash, hn, hr, ht, hb, hf⟩ := hc
    have hb' : c.toNat ≠ 8 := fun h => hb (by rw [← h, Char.ofNat_toNat])
    have hf' : c.toNat ≠ 12 := fun h => hf (by rw [← h, Char.ofNat_toNat])
    rw [escapeChar, if_neg hquote, if_neg hslash, if_neg hn, if_neg hr, if_neg ht, if_neg hb',
      if_neg hf']
    by_cases hcontrol : c.toNat < 32
    · exact .inr (.inl ⟨hcontrol, if_pos hcontrol⟩)
    · exact .inr (.inr ⟨hcontrol, hquote, hslash, if_neg hcontrol⟩)

lemma stringBody_escapeChar (c : Char) (cs : List Char) :
    stringBody none (escapeChar c ++ cs) = (stringBody none cs).map (consChar c) := by
  rcases escapeChar_cases c with
    ⟨letter, hread, he⟩ | ⟨hcontrol, he⟩ | ⟨hcontrol, hquote, hslash, he⟩
  · rw [he]
    exact stringBody_simpleEscape hread cs
  · have hread := readHex?_control ⟨c.toNat, hcontrol⟩
    obtain ⟨d₁, d₂, d₃, d₄, hdigits⟩ :
        ∃ d₁ d₂ d₃ d₄, (hexDigits 4 c.toNat).map hexChar = [d₁, d₂, d₃, d₄] := ⟨_, _, _, _, rfl⟩
    have hhigh : isHighSurrogate c.toNat = false := by
      simp only [isHighSurrogate, Bool.and_eq_false_iff, decide_eq_false_iff_not]
      omega
    have hlow : isLowSurrogate c.toNat = false := by
      simp only [isLowSurrogate, Bool.and_eq_false_iff, decide_eq_false_iff_not]
      omega
    rw [hdigits] at hread he
    rw [he]
    simp [stringBody, hread, hhigh, hlow]
  · rw [he, List.singleton_append, stringBody.eq_def]
    split
    case h_1 he => cases he
    case h_5 he =>
      cases he
      simp [hcontrol, hslash]
    all_goals
      next he =>
        cases he
        contradiction

lemma readString_quoted (s : String) (rest : List Char) :
    readString (s.toList.flatMap escapeChar ++ '"' :: rest) = some (some s, rest) := by
  have hbody (cs : List Char) :
      stringBody none (cs.flatMap escapeChar ++ '"' :: rest) = some (some cs, rest) := by
    induction cs with
    | nil => simp [stringBody]
    | cons c cs ih =>
      rw [List.flatMap_cons, List.append_assoc, stringBody_escapeChar, ih]
      rfl
  rw [readString, hbody]
  simp

/-- A document whose numbers are numbers and whose strings stand for texts. -/
inductive Sound : Json → Prop
  | null : Sound .null
  | bool (b : Bool) : Sound (.bool b)
  | number {token : List Char} (parts : (numberParts? token).isSome = true) :
      Sound (.number token)
  | text (s : String) : Sound (.text s)
  | array {items : List Json} (all : ∀ j ∈ items, Sound j) : Sound (.array items)
  | record {fields : List (String × Json)} (all : ∀ f ∈ fields, Sound f.2) :
      Sound (.record fields)

/-- The document is read off the front of its text. -/
def Reads (j : Json) : Prop :=
  ∀ (indent fuel : Nat) (rest : List Char), EndsNumber rest → (chars indent j).length ≤ fuel →
    readValue fuel (chars indent j ++ rest) = some (j, rest)

/-- The text of a value begins neither with a blank nor as an array ends. -/
def Opens (cs : List Char) : Prop := cs.head?.any (fun c => !isBlank c && c ≠ ']') = true

lemma Opens.exists_cons {cs : List Char} (h : Opens cs) :
    ∃ c rest, cs = c :: rest ∧ isBlank c = false ∧ c ≠ ']' := by
  cases cs with
  | nil => cases h
  | cons c rest =>
    obtain ⟨hblank, hclose⟩ : isBlank c = false ∧ c ≠ ']' := by simpa [Opens] using h
    exact ⟨c, rest, rfl, hblank, hclose⟩

lemma Sound.opens {j : Json} (h : j.Sound) (indent : Nat) : Opens (chars indent j) := by
  cases h with
  | null => rfl
  | bool b => cases b <;> rfl
  | @number token parts =>
    cases token with
    | nil => cases parts
    | cons c cs =>
      have hc := isNumberChar_of_numberParts? parts c List.mem_cons_self
      have hclose : c ≠ ']' := by
        rintro rfl
        cases hc
      simp [chars, Opens, isBlank_of_isNumberChar hc, hclose]
  | text => rfl
  | @array items => cases items <;> rfl
  | @record fields => cases fields <;> rfl

lemma readItems_itemChars {x : Json} {xs : List Json} (hx : x.Reads) (hxs : ∀ j ∈ xs, j.Reads)
    {indent fuel : Nat} (outer : Nat) (rest : List Char)
    (hfuel : (chars indent x).length + (itemChars indent xs).length < fuel) :
    readItems fuel (newline indent ++ (chars indent x ++ (itemChars indent xs ++
      (newline outer ++ ']' :: rest)))) = some (x :: xs, rest) := by
  obtain ⟨fuel, rfl⟩ := Nat.exists_eq_add_one_of_ne_zero (Nat.ne_zero_of_lt hfuel)
  induction xs generalizing x fuel with
  | nil =>
    have hread := hx indent fuel (newline outer ++ ']' :: rest) (endsNumber_newline _ _)
      (by omega)
    simp only [readItems, readValue_congr (skipBlanks_newline _ _), itemChars, List.nil_append,
      hread, skipBlanks_newline]
    rfl
  | cons y ys ih =>
    obtain ⟨hy, hys⟩ := List.forall_mem_cons.mp hxs
    have hsplit : itemChars indent (y :: ys) ++ (newline outer ++ ']' :: rest) =
        ',' :: (newline indent ++ (chars indent y ++ (itemChars indent ys ++
          (newline outer ++ ']' :: rest)))) := by
      simp [itemChars]
    have hlength : (chars indent y).length + (itemChars indent ys).length <
        (itemChars indent (y :: ys)).length := by
      simp only [itemChars, List.length_append, List.length_cons]
      omega
    obtain ⟨fuel, rfl⟩ := Nat.exists_eq_add_one_of_ne_zero (show fuel ≠ 0 by omega)
    have hread := hx indent (fuel + 1)
      (itemChars indent (y :: ys) ++ (newline outer ++ ']' :: rest))
      (by rw [hsplit]; rfl) (by omega)
    have hmore := ih hy hys fuel (by omega)
    rw [readItems, readValue_congr (skipBlanks_newline _ _), hread]
    simp only [hsplit, skipBlanks_cons (show isBlank ',' = false from rfl), hmore, Option.map_some]

/-- A field as the reader gives it, with its key known. -/
def known (f : String × Json) : Option String × Json := (some f.1, f.2)

lemma fieldChars_append (indent : Nat) (f : String × Json) (more : List Char) :
    fieldChars indent (known f) ++ more = '"' :: (f.1.toList.flatMap escapeChar ++
      '"' :: (':' :: ' ' :: (chars indent f.2 ++ more))) := by
  simp [known, fieldChars, quoted]

lemma readFields_moreFields {f : String × Json} {fs : List (String × Json)} (hf : f.2.Reads)
    (hfs : ∀ g ∈ fs, g.2.Reads) {indent fuel : Nat} (outer : Nat) (rest : List Char)
    (hfuel : (chars indent f.2).length + (moreFields indent (fs.map known)).length < fuel) :
    readFields fuel (newline indent ++ (fieldChars indent (known f) ++
      (moreFields indent (fs.map known) ++ (newline outer ++ '\x7d' :: rest)))) =
        some ((f :: fs).map known, rest) := by
  obtain ⟨fuel, rfl⟩ := Nat.exists_eq_add_one_of_ne_zero (Nat.ne_zero_of_lt hfuel)
  have hquote : isBlank '"' = false := rfl
  have hcolon : isBlank ':' = false := rfl
  have hcomma : isBlank ',' = false := rfl
  have hspace (cs : List Char) : skipBlanks (' ' :: cs) = skipBlanks cs := rfl
  induction fs generalizing f fuel with
  | nil =>
    have hread := hf indent fuel (newline outer ++ '\x7d' :: rest) (endsNumber_newline _ _)
      (by omega)
    simp only [readFields, skipBlanks_newline, fieldChars_append, skipBlanks_cons hquote,
      readString_quoted, skipBlanks_cons hcolon, readValue_congr (hspace _), hread, moreFields,
      List.map_nil, List.nil_append]
    rfl
  | cons g gs ih =>
    obtain ⟨hg, hgs⟩ := List.forall_mem_cons.mp hfs
    have hsplit : moreFields indent ((g :: gs).map known) ++ (newline outer ++ '\x7d' :: rest) =
        ',' :: (newline indent ++ (fieldChars indent (known g) ++
          (moreFields indent (gs.map known) ++ (newline outer ++ '\x7d' :: rest)))) := by
      simp [moreFields]
    have hlength : (chars indent g.2).length + (moreFields indent (gs.map known)).length <
        (moreFields indent ((g :: gs).map known)).length := by
      simp only [List.map_cons, moreFields, known, fieldChars, List.length_append,
        List.length_cons]
      omega
    obtain ⟨fuel, rfl⟩ := Nat.exists_eq_add_one_of_ne_zero (show fuel ≠ 0 by omega)
    have hread := hf indent (fuel + 1)
      (moreFields indent ((g :: gs).map known) ++ (newline outer ++ '\x7d' :: rest))
      (by rw [hsplit]; rfl) (by omega)
    have hmore := ih hg hgs fuel (by omega)
    rw [readFields, skipBlanks_newline, fieldChars_append, skipBlanks_cons hquote]
    simp only [readString_quoted, skipBlanks_cons hcolon, readValue_congr (hspace _), hread]
    simp only [hsplit, skipBlanks_cons hcomma, hmore, Option.map_some]
    rfl

lemma readValue_array {x : Json} {xs : List Json} {indent fuel : Nat}
    (hopens : Opens (chars (indent + 2) x)) (hx : x.Reads) (hxs : ∀ j ∈ xs, j.Reads)
    (rest : List Char) (hfuel : (chars indent (.array (x :: xs))).length ≤ fuel + 1) :
    readValue (fuel + 1) (chars indent (.array (x :: xs)) ++ rest) =
      some (.array (x :: xs), rest) := by
  have htext : chars indent (.array (x :: xs)) ++ rest =
      '[' :: (newline (indent + 2) ++ (chars (indent + 2) x ++ (itemChars (indent + 2) xs ++
        (newline indent ++ ']' :: rest)))) := by
    simp [chars]
  have hlength : (chars (indent + 2) x).length + (itemChars (indent + 2) xs).length < fuel := by
    simp only [chars, List.length_append, List.length_cons] at hfuel
    omega
  have hitems := readItems_itemChars hx hxs indent rest hlength
  simp only [htext, readValue, skipBlanks_cons (show isBlank '[' = false from rfl)]
  -- the first item does not begin as the array ends
  split
  · next hclose =>
    obtain ⟨c, cs, hchars, hblank, hc⟩ := hopens.exists_cons
    rw [skipBlanks_newline, hchars, List.cons_append, skipBlanks_cons hblank] at hclose
    exact absurd (List.cons.inj hclose).1 hc
  · rw [hitems]
    rfl

lemma readValue_record {f : String × Json} {fs : List (String × Json)} {indent fuel : Nat}
    (hf : f.2.Reads) (hfs : ∀ g ∈ fs, g.2.Reads) (rest : List Char)
    (hfuel : (chars indent (.record (f :: fs))).length ≤ fuel + 1) :
    readValue (fuel + 1) (chars indent (.record (f :: fs)) ++ rest) =
      some (.record (f :: fs), rest) := by
  have hchars : chars indent (.record (f :: fs)) =
      '\x7b' :: (newline (indent + 2) ++ fieldChars (indent + 2) (known f) ++
        moreFields (indent + 2) (fs.map known) ++ newline indent ++ ['\x7d']) := by
    simp only [record, List.map_cons, chars]
    rfl
  have hlength : (chars (indent + 2) f.2).length +
      (moreFields (indent + 2) (fs.map known)).length < fuel := by
    simp only [hchars, known, fieldChars, List.length_append, List.length_cons] at hfuel
    omega
  have hfields := readFields_moreFields hf hfs indent rest hlength
  have htext : chars indent (.record (f :: fs)) ++ rest =
      '\x7b' :: (newline (indent + 2) ++ (fieldChars (indent + 2) (known f) ++
        (moreFields (indent + 2) (fs.map known) ++ (newline indent ++ '\x7d' :: rest)))) := by
    simp [hchars]
  simp only [htext, readValue, skipBlanks_cons (show isBlank '\x7b' = false from rfl)]
  -- a field begins with its key
  split
  · next hclose =>
    rw [skipBlanks_newline, fieldChars_append, skipBlanks_cons rfl] at hclose
    cases hclose
  · rw [hfields]
    rfl

/-- A text that opens a value is not empty, so there is fuel to begin with. -/
lemma Reads.of_succ {j : Json} (hopens : ∀ indent, Opens (chars indent j))
    (h : ∀ indent fuel rest, EndsNumber rest → (chars indent j).length ≤ fuel + 1 →
      readValue (fuel + 1) (chars indent j ++ rest) = some (j, rest)) : j.Reads := by
  intro indent fuel rest hrest hfuel
  obtain ⟨c, cs, hchars, -⟩ := (hopens indent).exists_cons
  cases fuel with
  | zero =>
    rw [hchars] at hfuel
    cases hfuel
  | succ fuel => exact h indent fuel rest hrest hfuel

/-- Every sound document is read off the front of its text. -/
theorem Sound.reads {j : Json} (h : j.Sound) : j.Reads := by
  refine .of_succ h.opens fun indent fuel rest hrest hfuel => ?_
  induction h generalizing indent fuel rest with
  | null => rfl
  | bool b => cases b <;> rfl
  | number parts => exact readValue_number parts hrest fuel
  | text s =>
    have htext : chars indent (.text s) ++ rest =
        '"' :: (s.toList.flatMap escapeChar ++ '"' :: rest) := by
      simp [Json.text, chars, quoted]
    simp only [htext, readValue, skipBlanks_cons (show isBlank '"' = false from rfl),
      readString_quoted]
    rfl
  | @array items all ih =>
    have hreads (j : Json) (hj : j ∈ items) : j.Reads := .of_succ (all j hj).opens (ih j hj)
    cases items with
    | nil => rfl
    | cons x xs =>
      obtain ⟨hx, hxs⟩ := List.forall_mem_cons.mp hreads
      exact readValue_array ((all x List.mem_cons_self).opens _) hx hxs rest hfuel
  | @record fields all ih =>
    have hreads (f : String × Json) (hf : f ∈ fields) : f.2.Reads :=
      .of_succ (all f hf).opens (ih f hf)
    cases fields with
    | nil => rfl
    | cons f fs =>
      obtain ⟨hf, hfs⟩ := List.forall_mem_cons.mp hreads
      exact readValue_record hf hfs rest hfuel

/-- Every sound document is read from its text. -/
theorem Sound.parse?_render {j : Json} (h : j.Sound) : parse? j.render = some j := by
  have hread := h.reads 0 (2 * (chars 0 j).length + 2) [] rfl (by omega)
  rw [List.append_nil] at hread
  simp only [parse?, render, String.toList_ofList, hread]
  rfl

end Json

end ScriptGraph
