import ScriptGraph.Proofs.RonTokens
import ScriptGraph.Ron.Reader

/-! Readers and the documents that they read back. A reader that is put together from others reads
back what is put together from their documents; how deep values nest adds up on the way. -/
namespace ScriptGraph

open Ron

namespace RonContext

/-- A text can be read there: no extensions are on, there is room for what nests in the text, and
the size of the whole document bounds it. -/
structure Fits (ctx : RonContext) (depth : Nat) (cs : List Char) : Prop where
  plain : ctx.extensions = .none
  room : depth ≤ ctx.room
  size : cs.length ≤ ctx.size

variable {ctx : RonContext} {d : Nat} {cs : List Char}

lemma Fits.part (h : ctx.Fits d cs) {part : List Char} (hlen : part.length ≤ cs.length) :
    ctx.Fits d part :=
  ⟨h.plain, h.room, hlen.trans h.size⟩

lemma Fits.shallower (h : ctx.Fits d cs) {e : Nat} (he : e ≤ d) : ctx.Fits e cs :=
  ⟨h.plain, he.trans h.room, h.size⟩

end RonContext

namespace Ron

/-- Texts on lines of their own, each with a comma behind it. -/
def linesOf (level : Nat) (texts : List (List Char)) : List Char :=
  texts.flatMap fun t => newline level ++ t ++ [',']

/-- What stands between brackets: nothing, or indented lines. -/
def block (level : Nat) : List (List Char) → List Char
  | [] => []
  | t :: ts => linesOf (level + 1) (t :: ts) ++ newline level

lemma itemLines_eq (level : Nat) (items : List Ron) :
    itemLines level items = linesOf level (items.map (chars level)) := by
  induction items with
  | nil => rfl
  | cons x xs ih => simp [itemLines, linesOf, ih]

lemma entryLines_eq (level : Nat) (entries : List (Ron × Ron)) :
    entryLines level entries = linesOf level (entries.map (entryChars level)) := by
  induction entries with
  | nil => rfl
  | cons e es ih => simp [entryLines, linesOf, ih]

lemma fieldLines_eq (level : Nat) (fields : List (String × Ron)) :
    fieldLines level fields = linesOf level (fields.map (fieldChars level)) := by
  induction fields with
  | nil => rfl
  | cons f fs ih => simp [fieldLines, linesOf, ih]

lemma chars_list (level : Nat) (items : List Ron) :
    chars level (.list items) = '[' :: block level (items.map (chars (level + 1))) ++ [']'] := by
  cases items <;> simp [chars, block, itemLines_eq]

lemma chars_map (level : Nat) (entries : List (Ron × Ron)) :
    chars level (.map entries) =
      '\x7b' :: block level (entries.map (entryChars (level + 1))) ++ ['\x7d'] := by
  cases entries <;> simp [chars, block, entryLines_eq]

lemma chars_record (level : Nat) (label : Option String) (fields : List (String × Ron)) :
    chars level (.record label fields) =
      nameChars label ++ '(' :: block level (fields.map (fieldChars (level + 1))) ++ [')'] := by
  cases fields <;> simp [chars, block, fieldLines_eq]

lemma length_le_linesOf (level : Nat) {texts : List (List Char)} {t : List Char} (ht : t ∈ texts) :
    t.length ≤ (linesOf level texts).length := by
  induction texts with
  | nil => cases ht
  | cons u us ih =>
    simp only [linesOf, List.flatMap_cons, List.length_append] at ih ⊢
    rcases List.mem_cons.mp ht with rfl | ht
    · omega
    · have := ih ht
      omega

lemma count_le_linesOf (level : Nat) (texts : List (List Char)) :
    texts.length ≤ (linesOf level texts).length := by
  induction texts with
  | nil => rfl
  | cons u us ih =>
    simp only [linesOf, List.flatMap_cons, List.length_append, List.length_cons,
      List.length_nil] at ih ⊢
    omega

lemma length_le_enclosed {texts : List (List Char)} {t : List Char} (ht : t ∈ texts) (level : Nat)
    (opening closing : Char) : t.length ≤ (opening :: block level texts ++ [closing]).length := by
  cases texts with
  | nil => cases ht
  | cons u us =>
    have := length_le_linesOf (level + 1) ht
    simp only [block, List.length_append, List.length_cons]
    omega

lemma count_le_block (level : Nat) (texts : List (List Char)) :
    texts.length ≤ (block level texts).length := by
  cases texts with
  | nil => rfl
  | cons u us =>
    have := count_le_linesOf (level + 1) (u :: us)
    rw [block, List.length_append]
    omega

/-- Brackets that close what stands on lines. -/
structure Closes (close : Char) : Prop where
  noValue : beginsValue close = false
  noBlank : isBlank close = false
  noSlash : (close == '/') = false

lemma Closes.skipBlanks {close : Char} (h : Closes close) (rest : List Char) :
    skipBlanks (close :: rest) = some (close :: rest) :=
  skipBlanks_cons h.noBlank h.noSlash rest

lemma skipBlanks_linesOf {level outer : Nat} {close : Char} {t : List Char} (ts : List (List Char))
    (ht : Opens t) (rest : List Char) :
    skipBlanks (linesOf level (t :: ts) ++ newline outer ++ close :: rest) =
      some (t ++ ',' :: (linesOf level ts ++ newline outer ++ close :: rest)) := by
  have hsplit : linesOf level (t :: ts) ++ newline outer ++ close :: rest =
      newline level ++ (t ++ ',' :: (linesOf level ts ++ newline outer ++ close :: rest)) := by
    simp [linesOf]
  rw [hsplit, skipBlanks_newline, (ht.append _).skipBlanks]

lemma skipComma_comma (rest : List Char) :
    skipComma (',' :: rest) = (skipBlanks rest).map fun rest => (true, rest) := by
  unfold skipComma
  rw [skipBlanks_cons rfl rfl]
  rfl

lemma skipComma_close (rest : List Char) : skipComma (')' :: rest) = some (false, ')' :: rest) := by
  unfold skipComma
  rw [skipBlanks_cons rfl rfl]
  rfl

/-- Behind the comma of a line stand the next line or the bracket, past blanks. -/
lemma skipComma_linesOf {close : Char} (hclose : Closes close) {ts : List (List Char)}
    (hts : ∀ t ∈ ts, Opens t) (level outer : Nat) (rest : List Char) :
    ∃ left, skipComma (',' :: (linesOf level ts ++ newline outer ++ close :: rest)) =
        some (true, left) ∧
      skipBlanks left = skipBlanks (linesOf level ts ++ newline outer ++ close :: rest) := by
  rw [skipComma_comma]
  cases ts with
  | nil =>
    have hleft : skipBlanks (linesOf level [] ++ newline outer ++ close :: rest) =
        some (close :: rest) := by
      rw [linesOf, List.flatMap_nil, List.nil_append, skipBlanks_newline, hclose.skipBlanks]
    exact ⟨close :: rest, by rw [hleft]; rfl, by rw [hleft, hclose.skipBlanks]⟩
  | cons t ts =>
    have ht : Opens t := hts t (List.mem_cons_self ..)
    rw [skipBlanks_linesOf ts ht]
    exact ⟨_, rfl, (ht.append _).skipBlanks⟩

lemma skipBlanks_block (level : Nat) (texts : List (List Char)) (cs : List Char) :
    skipBlanks (block level texts ++ cs) =
      skipBlanks (linesOf (level + 1) texts ++ newline level ++ cs) := by
  cases texts with
  | nil =>
    rw [block, linesOf, List.flatMap_nil, List.nil_append, List.nil_append, skipBlanks_newline]
  | cons t ts => rfl

/-- Items that are read off their lines one by one are read off all lines. -/
lemma readItems_linesOf {α γ : Type} {item : List Char → Option (α × List Char)} {close : Char}
    (hclose : Closes close) {text : γ → List Char} {value : γ → α} {xs : List γ}
    (hitems : ∀ x ∈ xs, Opens (text x) ∧ ∀ rest, item (text x ++ ',' :: rest) =
      some (value x, ',' :: rest)) (level outer : Nat) (rest : List Char) {fuel : Nat}
    (hfuel : xs.length < fuel) {cs : List Char}
    (hcs : skipBlanks cs =
      skipBlanks (linesOf level (xs.map text) ++ newline outer ++ close :: rest)) :
    readItems item close fuel true cs = some (xs.map value, close :: rest) := by
  -- Induction on the items for any input that begins like theirs: a comma takes what blanks follow.
  induction xs generalizing fuel cs with
  | nil =>
    obtain ⟨fuel, rfl⟩ := Nat.exists_eq_add_of_lt hfuel
    rw [List.map_nil, linesOf, List.flatMap_nil, List.nil_append, skipBlanks_newline,
      hclose.skipBlanks] at hcs
    simp [readItems, hcs]
  | cons x xs ih =>
    rw [List.forall_mem_cons] at hitems
    obtain ⟨⟨hopens, hread⟩, hitems⟩ := hitems
    have htexts : ∀ t ∈ xs.map text, Opens t := by
      intro t ht
      obtain ⟨y, hy, rfl⟩ := List.mem_map.mp ht
      exact (hitems y hy).1
    cases fuel with
    | zero => cases hfuel
    | succ fuel =>
      obtain ⟨left, hcomma, hleft⟩ := skipComma_linesOf hclose htexts level outer rest
      have hmore := ih hitems (Nat.lt_of_succ_lt_succ hfuel) hleft
      rw [List.map_cons, skipBlanks_linesOf _ hopens] at hcs
      have hhead := (hopens.append (',' :: (linesOf level (xs.map text) ++ newline outer ++
        close :: rest))).head_ne hclose.noValue
      simp only [readItems, hcs, if_neg hhead, if_true, hread, hcomma, hmore, Option.bind_eq_bind,
        Option.bind_some, Option.pure_def, List.map_cons]

/-- The same for the lines between brackets, of which there may be none. -/
lemma readItems_block {α γ : Type} {item : List Char → Option (α × List Char)} {close : Char}
    (hclose : Closes close) {text : γ → List Char} {value : γ → α} {xs : List γ}
    (hitems : ∀ x ∈ xs, Opens (text x) ∧ ∀ rest, item (text x ++ ',' :: rest) =
      some (value x, ',' :: rest)) (level : Nat) (rest : List Char) {fuel : Nat}
    (hfuel : (block level (xs.map text)).length < fuel) :
    readItems item close fuel true (block level (xs.map text) ++ close :: rest) =
      some (xs.map value, close :: rest) := by
  have hcount := count_le_block level (xs.map text)
  rw [List.length_map] at hcount
  exact readItems_linesOf hclose hitems (level + 1) level rest (by omega) (skipBlanks_block ..)

end Ron

namespace RonReader

variable {α β γ : Type} {d : Nat}

/-- The reader takes the text of the document off the front, at any indentation and wherever a value
ends behind it. -/
structure Reads (r : RonReader α) (depth : Nat) (doc : Ron) (a : α) : Prop where
  opens : ∀ level, Opens (chars level doc)
  takes : ∀ level ctx rest, ctx.Fits depth (chars level doc) → Delimited rest →
    r ctx (chars level doc ++ rest) = some (a, rest)

lemma Reads.deeper {r : RonReader α} {doc : Ron} {a : α} (h : Reads r d doc a) {e : Nat}
    (he : d ≤ e) : Reads r e doc a :=
  ⟨h.opens, fun level ctx rest hfits => h.takes level ctx rest (hfits.shallower he)⟩

lemma Reads.map {r : RonReader α} {doc : Ron} {a : α} (h : Reads r d doc a) (f : α → β) :
    Reads (r.map f) d doc (f a) := by
  refine ⟨h.opens, fun level ctx rest hfits hrest => ?_⟩
  rw [RonReader.map, h.takes level ctx rest hfits hrest, Option.map_some]

/-- One level deeper there is one less of room. -/
lemma nested_eq {r : RonReader α} {ctx : RonContext} {cs input : List Char}
    {result : Option (α × List Char)} (h : ctx.Fits (d + 1) cs)
    (hr : ∀ inner : RonContext, inner.Fits d cs → r inner input = result) :
    r.nested ctx input = result := by
  obtain ⟨hplain, hroom, hsize⟩ := h
  unfold nested
  cases hk : ctx.room with
  | zero => omega
  | succ room =>
    have hless : d ≤ room := by omega
    exact hr { ctx with room := room } ⟨hplain, hless, hsize⟩

lemma Reads.nested {r : RonReader α} {doc : Ron} {a : α} (h : Reads r d doc a) {level : Nat}
    {ctx : RonContext} (hfits : ctx.Fits (d + 1) (chars level doc)) {rest : List Char}
    (hrest : Delimited rest) : r.nested ctx (chars level doc ++ rest) = some (a, rest) :=
  nested_eq hfits fun inner hinner => h.takes level inner rest hinner hrest

lemma reads_text (s : String) : Reads text 0 (.string s) s where
  opens _ := opens_quoted s
  takes _ _ rest _ _ := readString?_quoted s rest

lemma reads_bool (b : Bool) : Reads bool 0 (.bool b) b := by
  constructor
  · intro level
    cases b <;> rfl
  · intro level ctx rest _ hrest
    have hstop := hrest.head_any (p := isIdentifierPart) rfl rfl
    cases b with
    | true =>
      have htrue : takeName "true" ("true".toList ++ rest) = some rest := takeName_append hstop
      simp only [Ron.bool, chars, if_true, bool, htrue]
    | false =>
      have htrue : takeName "true" ("false".toList ++ rest) = none := takeName_eq_none rfl
      have hfalse : takeName "false" ("false".toList ++ rest) = some rest := takeName_append hstop
      simp only [Ron.bool, chars, Bool.false_eq_true, if_false, bool, htrue, hfalse,
        Option.map_some]

lemma reads_integer {t : IntegerType} {i : Int} (hholds : t.holds i = true) :
    Reads (integer t) 0 (.int i) i := by
  have hchars (level : Nat) : chars level (.int i) =
      (if decide (i < 0) then ['-'] else []) ++ natChars i.natAbs := by
    by_cases h : i < 0 <;> simp [Ron.int, chars, h]
  have hvalue : (if decide (i < 0) then -(i.natAbs : Int) else i.natAbs) = i := by
    by_cases h : i < 0
    · rw [if_pos (by simpa using h)]
      omega
    · rw [if_neg (by simpa using h)]
      omega
  constructor
  · intro level
    rw [hchars]
    cases decide (i < 0) with
    | true => rfl
    | false => exact opens_digitChars (decimalDigits_ne_nil _) (decimalDigits_lt_ten _)
  · intro level ctx rest _ hrest
    have has : IntegerLiteral.as? ⟨i, none⟩ t = some i := by
      simp [IntegerLiteral.as?, hholds]
    rw [hchars]
    simp only [integer, readInteger?_natChars _ _ hrest, hvalue, has, Option.bind_eq_bind,
      Option.bind_some, Option.pure_def]

lemma nat_eq_int (n : Nat) : Ron.nat n = .int n := by
  have h : ¬ (n : Int) < 0 := by omega
  rw [Ron.nat, Ron.int, if_neg h, Int.natAbs_natCast]

lemma reads_word (w : UInt32) : Reads word 0 (.nat w.toNat) w := by
  have hholds : unsigned32.holds w.toNat = true := by
    have := w.toNat_lt
    simp [IntegerType.holds, unsigned32]
    omega
  have h := (reads_integer hholds).map fun i => UInt32.ofNat i.toNat
  rw [← nat_eq_int, Int.toNat_natCast, UInt32.ofNat_toNat] at h
  exact h

lemma reads_longWord (w : UInt64) : Reads longWord 0 (.nat w.toNat) w := by
  have hholds : unsigned64.holds w.toNat = true := by
    have := w.toNat_lt
    simp [IntegerType.holds, unsigned64]
    omega
  have h := (reads_integer hholds).map fun i => UInt64.ofNat i.toNat
  rw [← nat_eq_int, Int.toNat_natCast, UInt64.ofNat_toNat] at h
  exact h

lemma reads_int64 (i : Int64) : Reads int64 0 (.int i.toInt) i := by
  have hholds : signed64.holds i.toInt = true := by
    have hlow := i.le_toInt
    have hhigh := i.toInt_lt
    simp only [IntegerType.holds, signed64, Bool.and_eq_true]
    exact ⟨decide_eq_true hlow, decide_eq_true (by omega)⟩
  have h := (reads_integer hholds).map Int64.ofInt
  rw [Int64.ofInt_toInt] at h
  exact h

lemma reads_single (x : Single) : Reads single 0 (.single x) x.plainNaN := by
  refine ⟨fun _ => opens_write x, fun level ctx rest _ hrest => ?_⟩
  simp [single, Ron.single, chars, readFloat?_write x hrest]

/-- What a body takes up to the closing bracket is taken together with both brackets. -/
lemma enclosed_eq {body : RonReader α} {opening closing : Char} (hclose : Closes closing)
    {ctx : RonContext} {inner rest : List Char} {a : α}
    (hfits : ctx.Fits (d + 1) (opening :: inner ++ [closing]))
    (hbody : ∀ sub : RonContext, sub.Fits d (opening :: inner ++ [closing]) →
      body sub (inner ++ closing :: rest) = some (a, closing :: rest)) :
    enclosed opening closing body ctx (opening :: inner ++ [closing] ++ rest) = some (a, rest) := by
  have hinput : opening :: inner ++ [closing] ++ rest = opening :: (inner ++ closing :: rest) := by
    simp
  have hnested := nested_eq hfits hbody
  simp only [enclosed, hinput, takeChar, if_true, Option.bind_some, Option.bind_eq_bind, hnested,
    hclose.skipBlanks, Option.pure_def]

lemma closes_list : Closes ']' := ⟨rfl, rfl, rfl⟩

lemma closes_map : Closes '\x7d' := ⟨rfl, rfl, rfl⟩

lemma closes_record : Closes ')' := ⟨rfl, rfl, rfl⟩

lemma block_length_lt {ctx : RonContext} {opening closing : Char} {inner : List Char}
    (hfits : ctx.Fits d (opening :: inner ++ [closing])) : inner.length < ctx.size + 1 := by
  have h := hfits.size
  simp only [List.length_append, List.length_cons] at h
  omega

lemma reads_list {item : RonReader α} {doc : γ → Ron} {value : γ → α} (xs : List γ)
    (h : ∀ x ∈ xs, Reads item d (doc x) (value x)) :
    Reads (list item) (d + 2) (.list (xs.map doc)) (xs.map value) := by
  constructor
  · intro level
    rw [chars_list]
    rfl
  · intro level ctx rest hfits _
    rw [chars_list, List.map_map] at hfits ⊢
    refine enclosed_eq closes_list hfits fun sub hsub => ?_
    refine readItems_block closes_list (fun x hx => ⟨(h x hx).opens _, fun rest => ?_⟩) level rest
      (block_length_lt hsub)
    have hlen := length_le_enclosed (List.mem_map_of_mem (f := chars (level + 1) ∘ doc) hx) level
      '[' ']'
    exact (h x hx).nested (hsub.part hlen) (delimited_comma rest)

lemma reads_same_list {item : RonReader α} {doc : α → Ron} (xs : List α)
    (h : ∀ x ∈ xs, Reads item d (doc x) x) : Reads (list item) (d + 2) (.list (xs.map doc)) xs := by
  have hmap := reads_list xs h
  rwa [List.map_id'] at hmap

/-- Behind a key and a colon stands the value. -/
lemma readEntry_eq {key : List Char → Option (α × List Char)}
    {value : α → List Char → Option (β × List Char)} {k : α} {front next : List Char}
    (hkey : key (front ++ ':' :: ' ' :: next) = some (k, ':' :: ' ' :: next))
    (hnext : Opens next) : readEntry key value (front ++ ':' :: ' ' :: next) = value k next := by
  have hcolon := skipBlanks_cons (c := ':') rfl rfl (' ' :: next)
  have hblank : skipBlanks (' ' :: next) = some next := by
    rw [skipBlanks_space, hnext.skipBlanks]
  simp only [readEntry, hkey, hcolon, takeChar, hblank, Option.bind_eq_bind, Option.bind_some,
    if_true]

lemma Reads.entry {item : RonReader α} {doc : Ron} {a : α} (h : Reads item d doc a) (key : String)
    {level : Nat} {ctx : RonContext}
    (hfits : ctx.Fits (d + 1) (entryChars level (.string key, doc))) {rest : List Char}
    (hrest : Delimited rest) :
    readEntry (text.nested ctx) (fun key => (item.map fun x => (key, x)).nested ctx)
      (entryChars level (.string key, doc) ++ rest) = some ((key, a), rest) := by
  have hinput : entryChars level (.string key, doc) ++ rest =
      quoted key ++ ':' :: ' ' :: (chars level doc ++ rest) := by
    simp [entryChars, chars]
  have hkey : text.nested ctx (quoted key ++ ':' :: ' ' :: (chars level doc ++ rest)) =
      some (key, ':' :: ' ' :: (chars level doc ++ rest)) :=
    nested_eq hfits fun _ _ => readString?_quoted key _
  have hlen : (chars level doc).length ≤ (entryChars level (.string key, doc)).length := by
    simp only [entryChars, List.length_append]
    omega
  rw [hinput, readEntry_eq hkey ((h.opens level).append rest)]
  exact (h.map fun x => (key, x)).nested (hfits.part hlen) hrest

lemma reads_table {item : RonReader α} (es : List (String × γ)) (doc : γ → Ron) (value : γ → α)
    (h : ∀ e ∈ es, Reads item d (doc e.2) (value e.2)) :
    Reads (table item) (d + 2) (.map (es.map fun e => (.string e.1, doc e.2)))
      (.ofList (es.map fun e => (e.1, value e.2))) := by
  constructor
  · intro level
    rw [chars_map]
    rfl
  · intro level ctx rest hfits _
    rw [chars_map, List.map_map] at hfits ⊢
    refine enclosed_eq closes_map hfits fun sub hsub => ?_
    have hread : readItems (readEntry (text.nested sub) fun key =>
        (item.map fun x => (key, x)).nested sub) '\x7d' (sub.size + 1) true
          (block level (es.map (entryChars (level + 1) ∘ fun e => (.string e.1, doc e.2))) ++
            '\x7d' :: rest) = some (es.map fun e => (e.1, value e.2), '\x7d' :: rest) := by
      refine readItems_block closes_map ?_ level rest (block_length_lt hsub)
      refine fun e he => ⟨rfl, fun rest => ?_⟩
      have hlen := length_le_enclosed (List.mem_map_of_mem
        (f := entryChars (level + 1) ∘ fun e => (.string e.1, doc e.2)) he) level '\x7b' '\x7d'
      exact (h e he).entry e.1 (hsub.part hlen) (delimited_comma rest)
    exact congrArg (Option.map _) hread

lemma opens_name {name : String} (hname : isName name = true) : Opens name.toList := by
  have hstart := ((Bool.and_eq_true ..).mp hname).1
  obtain ⟨c, tail, hc⟩ : ∃ c tail, name.toList = c :: tail := by
    cases h : name.toList with
    | nil => simp [h] at hstart
    | cons c tail => exact ⟨c, tail, rfl⟩
  rw [hc] at hstart ⊢
  have hc : isIdentifierStart c = true := by simpa using hstart
  have hother (n : Nat) (hn : isIdentifierStart (Char.ofNat n) = false) : c.toNat ≠ n := by
    rintro rfl
    rw [Char.ofNat_toNat, hc] at hn
    cases hn
  have hne (x : Char) (hx : isIdentifierStart x = false) : c ≠ x := by
    rintro rfl
    rw [hc] at hx
    cases hx
  have hmarks : ∀ n ∈ [0x0b, 0x0c, 0x85, 0x200e, 0x200f, 0x2028, 0x2029],
      isIdentifierStart (Char.ofNat n) = false := by decide +kernel
  have hblank : isBlank c = false := by
    have hno : ∀ n ∈ [0x0b, 0x0c, 0x85, 0x200e, 0x200f, 0x2028, 0x2029], c.toNat ≠ n :=
      fun n hn => hother n (hmarks n hn)
    simp only [List.forall_mem_cons] at hno
    simp [isBlank, hne ' ' rfl, hne '\t' rfl, hne '\n' rfl, hne '\r' rfl, hno]
  simp [Opens, beginsValue, hblank, hne '/' rfl, hne '#' rfl, hne ')' rfl, hne ']' rfl,
    hne '\x7d' rfl]

lemma takeTypeName_append {name : String} (hname : isName name = true) (ctx : RonContext)
    (rest : List Char) :
    takeTypeName name ctx (name.toList ++ '(' :: rest) = some ('(' :: rest) := by
  have hhead : (name.toList ++ '(' :: rest).head?.any isIdentifierPart = true := by
    obtain ⟨hstart, hall⟩ := (Bool.and_eq_true ..).mp hname
    cases h : name.toList with
    | nil => simp [h] at hstart
    | cons c tail =>
      rw [h, List.all_cons, Bool.and_eq_true] at hall
      exact hall.1
  unfold takeTypeName
  rw [if_pos hhead, readIdentifier?_name hname (.inr rfl)]
  simp [plainName_of_isName hname]

lemma chars_wrapped (level : Nat) (label : String) (item : Ron) :
    chars level (wrapped label item) = label.toList ++ '(' :: chars level item ++ [')'] := by
  simp [wrapped, chars, nameChars, itemsInline]

lemma chars_wrapped_append (level : Nat) (label : String) (item : Ron) (rest : List Char) :
    chars level (wrapped label item) ++ rest =
      label.toList ++ '(' :: (chars level item ++ ')' :: rest) := by
  simp [chars_wrapped]

lemma opens_wrapped {name : String} (hname : isName name = true) (level : Nat) (doc : Ron) :
    Opens (chars level (wrapped name doc)) := by
  rw [chars_wrapped]
  exact ((opens_name hname).append _).append _

lemma skipBlanks_open (rest : List Char) : skipBlanks ('(' :: rest) = some ('(' :: rest) :=
  skipBlanks_cons rfl rfl rest

lemma Reads.soleItem {item : RonReader α} {doc : Ron} {a : α} (h : Reads item d doc a) {level : Nat}
    {ctx : RonContext} (hfits : ctx.Fits (d + 1) (chars level doc)) (rest : List Char) :
    soleItem item ctx (chars level doc ++ ')' :: rest) = some (a, rest) := by
  have hblanks := ((h.opens level).append (')' :: rest)).skipBlanks
  have hitem := h.nested hfits (delimited_close rest)
  simp only [RonReader.soleItem, hblanks, hitem, skipComma_close, takeChar, Option.bind_eq_bind,
    Option.bind_some, if_true, Option.pure_def]

lemma wrapped_part (level : Nat) (name : String) (doc : Ron) :
    (chars level doc).length ≤ (chars level (wrapped name doc)).length := by
  rw [chars_wrapped]
  simp only [List.length_append, List.length_cons]
  omega

lemma Reads.newtype {item : RonReader α} {doc : Ron} {a : α} (h : Reads item d doc a)
    {name : String} (hname : isName name = true) :
    Reads (newtype name item false) (d + 1) (wrapped name doc) a := by
  refine ⟨fun level => opens_wrapped hname level doc, fun level ctx rest hfits _ => ?_⟩
  have hsole := h.soleItem (hfits.part (wrapped_part level name doc)) rest
  rw [chars_wrapped_append]
  simp only [RonReader.newtype, hfits.plain, RonExtensions.none, Bool.or_self, Bool.false_eq_true,
    if_false, takeTypeName_append hname, skipBlanks_open, takeChar, if_true, hsole,
    Option.bind_eq_bind, Option.bind_some]

lemma reads_oneOf {item : String → Option (Bool → RonReader α)} {read : Bool → RonReader α}
    {name : String} (hitem : item name = some read) (hname : isName name = true) {doc : Ron} {a : α}
    (h : Reads (read false) d doc a) : Reads (oneOf item) (d + 2) (wrapped name doc) a := by
  refine ⟨fun level => opens_wrapped hname level doc, fun level ctx rest hfits _ => ?_⟩
  have hsole : (RonReader.soleItem (read false)).nested ctx (chars level doc ++ ')' :: rest) =
      some (a, rest) :=
    nested_eq hfits fun inner hinner =>
      h.soleItem (hinner.part (wrapped_part level name doc)) rest
  rw [chars_wrapped_append]
  simp only [RonReader.oneOf, readIdentifier?_name hname (.inr rfl), plainName_of_isName hname,
    hitem, skipBlanks_open, takeChar, if_true, hfits.plain, RonExtensions.none, hsole,
    Option.bind_eq_bind, Option.bind_some]

lemma reads_option {item : Bool → RonReader α} {doc : γ → Ron} {value : γ → α} {o : Option γ}
    (h : ∀ x ∈ o, Reads (item false) d (doc x) (value x)) :
    Reads (option item false) (d + 1) (Ron.option doc o) (o.map value) := by
  cases o with
  | none =>
    refine ⟨fun _ => rfl, fun level ctx rest _ hrest => ?_⟩
    have hnone : takeName "None" ("None".toList ++ rest) = some rest :=
      takeName_append (hrest.head_any rfl rfl)
    simp only [RonReader.option, Ron.option, chars, hnone, Option.map_none]
  | some x =>
    refine ⟨fun level => rfl, fun level ctx rest hfits _ => ?_⟩
    have hnone : takeName "None" ("Some".toList ++ '(' :: (chars level (doc x) ++ ')' :: rest)) =
        none := takeName_eq_none rfl
    have hsome : takeName "Some" ("Some".toList ++ '(' :: (chars level (doc x) ++ ')' :: rest)) =
        some ('(' :: (chars level (doc x) ++ ')' :: rest)) := takeName_append rfl
    have hsole := ((h x rfl).map some).soleItem
      (hfits.part (wrapped_part level "Some" (doc x))) rest
    rw [Ron.option, ← wrapped, chars_wrapped_append]
    simp only [RonReader.option, hnone, hsome, skipBlanks_open, hfits.plain, RonExtensions.none,
      hsole, Option.bind_eq_bind, Option.bind_some, Option.map_some]

lemma Opens.goes_on {cs : List Char} (h : Opens cs) :
    (true && decide (cs.head? ≠ some ')')) = true := by
  rw [Bool.true_and]
  exact decide_eq_true (h.head_ne closes_record.noValue)

lemma Reads.component {item : RonReader α} {doc : Ron} {a : α} (h : Reads item d doc a)
    {level : Nat} {ctx : RonContext} (hfits : ctx.Fits (d + 1) (chars level doc)) {next : List Char}
    (hnext : Opens next) :
    component item true ctx (chars level doc ++ ',' :: ' ' :: next) = some ((a, true), next) := by
  have hopens := (h.opens level).append (',' :: ' ' :: next)
  have hcomma : skipComma (',' :: ' ' :: next) = some (true, next) := by
    rw [skipComma_comma, skipBlanks_space, hnext.skipBlanks, Option.map_some]
  simp only [RonReader.component, hopens.skipBlanks, Opens.goes_on hopens, if_true,
    h.nested hfits (delimited_comma _), hcomma, Option.bind_eq_bind, Option.bind_some,
    Option.pure_def]

lemma Reads.lastComponent {item : RonReader α} {doc : Ron} {a : α} (h : Reads item d doc a)
    {level : Nat} {ctx : RonContext} (hfits : ctx.Fits (d + 1) (chars level doc))
    (rest : List Char) :
    RonReader.component item true ctx (chars level doc ++ ')' :: rest) =
      some ((a, false), ')' :: rest) := by
  have hopens := (h.opens level).append (')' :: rest)
  simp only [RonReader.component, hopens.skipBlanks, Opens.goes_on hopens, if_true,
    h.nested hfits (delimited_close _), skipComma_close, Option.bind_eq_bind, Option.bind_some,
    Option.pure_def]

lemma length_le_itemsInline (level : Nat) {items : List Ron} {item : Ron} (h : item ∈ items) :
    (chars level item).length ≤ (itemsInline level items).length := by
  induction items with
  | nil => cases h
  | cons x xs ih =>
    cases xs with
    | nil =>
      obtain rfl := List.mem_singleton.mp h
      simp [itemsInline]
    | cons y ys =>
      simp only [itemsInline, List.length_append, List.length_cons]
      rcases List.mem_cons.mp h with rfl | h
      · omega
      · have := ih h
        omega

lemma reads_tupleOf {body : RonReader α} {items : List Ron} {a : α}
    (hbody : ∀ (level : Nat) (sub : RonContext) (rest : List Char),
      (∀ item ∈ items, sub.Fits d (chars level item)) →
        body sub (itemsInline level items ++ ')' :: rest) = some (a, ')' :: rest)) :
    Reads (tupleOf body false) (d + 1) (.tuple none items) a := by
  have hchars (level : Nat) :
      chars level (.tuple none items) = '(' :: itemsInline level items ++ [')'] := by
    simp [chars, nameChars]
  refine ⟨fun level => ?_, fun level ctx rest hfits _ => ?_⟩
  · rw [hchars]
    rfl
  · rw [hchars] at hfits ⊢
    refine enclosed_eq closes_record hfits fun sub hsub => hbody level sub rest fun item hitem => ?_
    have hlen := length_le_itemsInline level hitem
    refine hsub.part ?_
    simp only [List.length_append, List.length_cons]
    omega

end RonReader

namespace RonRecord

open RonReader

variable {α β σ τ : Type} {d : Nat}

/-- The fields are known to the record, and each takes what is known of it one step on. -/
inductive Fills (r : RonRecord σ α) (d : Nat) : σ → List (String × Ron) → σ → Prop
  | nil (s : σ) : Fills r d s [] s
  | cons {s t u : σ} {name : String} {doc : Ron} {fields : List (String × Ron)}
      {read : σ → RonReader σ} (hfield : r.field? name = some read)
      (hread : Reads (read s) d doc t) (hrest : Fills r d t fields u) :
      Fills r d s ((name, doc) :: fields) u

/-- The record comes to know the fields of these names, if no name is given twice. -/
def Holds (r : RonRecord σ α) (d : Nat) (names : List String) (fields : List (String × Ron))
    (s : σ) : Prop :=
  fields.map Prod.fst = names ∧ (names.Nodup → Fills r d r.start fields s)

lemma opens_field {f : String × Ron} (hname : isName f.1 = true) (level : Nat) :
    Opens (fieldChars level f) := by
  obtain ⟨name, doc⟩ := f
  exact ((opens_name hname).append _).append _

/-- A field of a record. -/
lemma readEntry_field {r : RonRecord σ α} {s t : σ} {name : String} {doc : Ron}
    {read : σ → RonReader σ} (hname : isName name = true) (hfield : r.field? name = some read)
    (hread : Reads (read s) d doc t) {level : Nat} {ctx : RonContext}
    (hfits : ctx.Fits (d + 1) (fieldChars level (name, doc))) {rest : List Char}
    (hrest : Delimited rest) :
    readEntry readIdentifier? (fun ident => (r.readField s ident).nested ctx)
      (fieldChars level (name, doc) ++ rest) = some (t, rest) := by
  have hinput : fieldChars level (name, doc) ++ rest =
      name.toList ++ ':' :: ' ' :: (chars level doc ++ rest) := by
    simp [fieldChars]
  have hlen : (chars level doc).length ≤ (fieldChars level (name, doc)).length := by
    simp only [fieldChars, List.length_append]
    omega
  have hknown : r.readField s name = read s := by
    simp only [readField, plainName_of_isName hname, hfield]
  rw [hinput, readEntry_eq (readIdentifier?_name hname (.inl rfl) _)
    ((hread.opens level).append rest), hknown]
  exact hread.nested (hfits.part hlen) hrest

lemma Fills.readFields {r : RonRecord σ α} {s t : σ} {fields : List (String × Ron)}
    (h : Fills r d s fields t) (hnames : ∀ f ∈ fields, isName f.1 = true) (level outer : Nat)
    {ctx : RonContext} (hfits : ∀ f ∈ fields, ctx.Fits (d + 1) (fieldChars level f))
    (rest : List Char) {fuel : Nat}
    (hfuel : fields.length < fuel) {cs : List Char}
    (hcs : skipBlanks cs = skipBlanks
      (linesOf level (fields.map (fieldChars level)) ++ newline outer ++ ')' :: rest)) :
    r.readFields ctx fuel true s cs = some (t, ')' :: rest) := by
  induction h generalizing fuel cs with
  | nil s =>
    obtain ⟨fuel, rfl⟩ := Nat.exists_eq_add_of_lt hfuel
    rw [List.map_nil, linesOf, List.flatMap_nil, List.nil_append, skipBlanks_newline,
      closes_record.skipBlanks] at hcs
    simp [RonRecord.readFields, hcs]
  | @cons s t u name doc fields read hfield hread _ ih =>
    rw [List.forall_mem_cons] at hfits hnames
    have hopens := opens_field hnames.1 level
    have hlines : ∀ l ∈ fields.map (fieldChars level), Opens l := by
      intro l hl
      obtain ⟨f, hf, rfl⟩ := List.mem_map.mp hl
      exact opens_field (hnames.2 f hf) level
    cases fuel with
    | zero => cases hfuel
    | succ fuel =>
      obtain ⟨left, hcomma, hleft⟩ := skipComma_linesOf closes_record hlines level outer rest
      have hrest := ih hnames.2 hfits.2 (Nat.lt_of_succ_lt_succ hfuel) hleft
      rw [List.map_cons, skipBlanks_linesOf _ hopens] at hcs
      have hhead := (hopens.append (',' :: (linesOf level (fields.map (fieldChars level)) ++
        newline outer ++ ')' :: rest))).head_ne closes_record.noValue
      have hentry := readEntry_field hnames.1 hfield hread hfits.1 (delimited_comma
        (linesOf level (fields.map (fieldChars level)) ++ newline outer ++ ')' :: rest))
      simp only [RonRecord.readFields, hcs, if_neg hhead, if_true, hentry, hcomma, hrest,
        Option.bind_eq_bind, Option.bind_some]

theorem Fills.reads {r : RonRecord σ α} {s : σ} {fields : List (String × Ron)} {a : α}
    (h : Fills r d r.start fields s) (hfinish : r.finish? s = some a) {typeName : String}
    (hname : isName typeName = true) (hnames : ∀ f ∈ fields, isName f.1 = true) :
    Reads (r.read typeName) (d + 2) (.record (some typeName) fields) a := by
  refine ⟨fun level => ?_, fun level ctx rest hfits _ => ?_⟩
  · rw [chars_record]
    exact ((opens_name hname).append _).append _
  · rw [chars_record] at hfits ⊢
    let body := block level (fields.map (fieldChars (level + 1)))
    have hinput : nameChars (some typeName) ++ '(' :: body ++ [')'] ++ rest =
        typeName.toList ++ '(' :: (body ++ [')'] ++ rest) := by
      simp [nameChars]
    have hinner : ctx.Fits (d + 2) ('(' :: body ++ [')']) := by
      refine hfits.part ?_
      simp only [body, List.length_append, List.length_cons]
      omega
    have henclosed : enclosed '(' ')' (fun sub => r.readFields sub (sub.size + 1) true r.start) ctx
        ('(' :: (body ++ [')'] ++ rest)) = some (s, rest) := by
      refine enclosed_eq closes_record hinner fun sub hsub => ?_
      have hcount := count_le_block level (fields.map (fieldChars (level + 1)))
      have hsize : body.length < sub.size + 1 := block_length_lt hsub
      rw [List.length_map] at hcount
      have hfuel : fields.length < sub.size + 1 := hcount.trans_lt hsize
      refine h.readFields hnames (level + 1) level (fun f hf => ?_) rest hfuel
        (skipBlanks_block ..)
      exact hsub.part (length_le_enclosed (List.mem_map_of_mem hf) level '(' ')')
    rw [hinput]
    simp only [RonRecord.read, takeTypeName_append hname, skipBlanks_open, henclosed, hfinish,
      Option.bind_eq_bind, Option.bind_some, Option.pure_def]

lemma Holds.reads {r : RonRecord σ α} {s : σ} {names : List String}
    {fields : List (String × Ron)} {typeName : String} {f : α → β} {b : β}
    (h : r.Holds d names fields s)
    (hnames : (typeName :: names).all isName = true ∧ names.Nodup)
    (hfinish : (r.finish? s).map f = some b) :
    Reads ((r.read typeName).map f) (d + 2) (.record (some typeName) fields) b := by
  obtain ⟨rfl, hfills⟩ := h
  obtain ⟨hnames, hnodup⟩ := hnames
  obtain ⟨a, ha, rfl⟩ := Option.map_eq_some_iff.mp hfinish
  simp only [List.all_cons, List.all_map, Bool.and_eq_true, List.all_eq_true] at hnames
  exact ((hfills hnodup).reads ha hnames.1 hnames.2).map f

lemma Fills.and_right {q : RonRecord τ β} {u v : τ} {fields : List (String × Ron)}
    (h : Fills q d u fields v) {r : RonRecord σ α} (hr : ∀ f ∈ fields, r.field? f.1 = none)
    (s : σ) : Fills (r.and q) d (s, u) fields (s, v) := by
  induction h with
  | nil u => exact .nil _
  | @cons u v w name doc fields read hfield hread _ ih =>
    rw [List.forall_mem_cons] at hr
    have hboth : (r.and q).field? name =
        some fun p => (read p.2).map fun y => (p.1, y) := by
      simp [RonRecord.and, hr.1, hfield]
    exact .cons hboth (hread.map fun y => (s, y)) (ih hr.2)

lemma Holds.one {name : String} {item : RonReader α} {finish? : Option α → Option β} {doc : Ron}
    {a : α} (ha : Reads item d doc a) :
    (single name item finish?).Holds d [name] [(name, doc)] (some a) := by
  have hfield : (single name item finish?).field? name =
      some fun given => if given.isSome then fun _ _ => none else item.map some := by
    simp [single]
  exact ⟨rfl, fun _ => .cons hfield (ha.map some) (.nil _)⟩

lemma Holds.cons {γ : Type} {name : String} {item : RonReader α} {finish? : Option α → Option γ}
    {doc : Ron} {a : α} {q : RonRecord τ β} {names : List String} {fields : List (String × Ron)}
    {t : τ} (ha : Reads item d doc a) (h : q.Holds d names fields t) :
    ((single name item finish?).and q).Holds d (name :: names) ((name, doc) :: fields)
      (some a, t) := by
  obtain ⟨rfl, hfills⟩ := h
  refine ⟨rfl, fun hnodup => ?_⟩
  obtain ⟨hnew, hnodup⟩ := List.nodup_cons.mp hnodup
  have hfield : ((single name item finish?).and q).field? name = some fun p =>
      RonReader.map (if p.1.isSome then fun _ _ => none else item.map some) fun x => (x, p.2) := by
    simp [single, RonRecord.and]
  have hothers : ∀ f ∈ fields, (single name item finish?).field? f.1 = none := by
    intro f hf
    have hne : f.1 ≠ name := fun he => hnew (he ▸ List.mem_map_of_mem hf)
    simp [single, hne]
  exact .cons hfield ((ha.map some).map fun x => (x, q.start)) ((hfills hnodup).and_right hothers _)

end RonRecord

namespace Ron

/-- A reader that reads a document back reads it back from its whole text. -/
theorem document?_render {α : Type} {r : RonReader α} {d : Nat} {doc : Ron} {a : α}
    (h : r.Reads d doc a) (hd : d ≤ maxNesting) : document? r doc.render = some a := by
  have hopens := h.opens 0
  have hfits : RonContext.Fits ⟨.none, maxNesting, (chars 0 doc).length⟩ d (chars 0 doc) :=
    ⟨rfl, hd, le_rfl⟩
  have hread := h.takes 0 _ [] hfits delimited_nil
  have hattributes : readAttributes ((chars 0 doc).length + 1) .none (chars 0 doc) =
      some (.none, chars 0 doc) := by
    obtain ⟨c, tail, hcons, hc⟩ := hopens.exists_cons
    rw [hcons]
    unfold readAttributes
    split
    · next he =>
      cases he
      cases hc
    · next he =>
      cases he
      cases hc
    · rfl
  have hend : skipBlanks [] = some [] := rfl
  rw [List.append_nil] at hread
  simp only [document?, render, String.toList_ofList, hopens.skipBlanks, hattributes, hread, hend,
    Option.bind_eq_bind, Option.bind_some, if_true]

end Ron

end ScriptGraph
