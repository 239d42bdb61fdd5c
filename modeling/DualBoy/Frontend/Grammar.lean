import DualBoy.Frontend.Normalize
import Mathlib.Data.List.Forall2
import Mathlib.Data.List.TakeWhile

/-!
# The playlist grammar

What a playlist is, said without the scanner: behind a byte-order mark or none, text of lines that
end in any of three ways, of which two name an entry when the blanks around them are gone. The
scanner of `dualboy_playlist_parse` accepts exactly these.

* `trimmed_iff`, `behindMark_iff`: what the scanner takes off a line, and off the data.
* `entryLines_eq`: one turn of the scanner takes one line of the text.
* `parseLoop_eq_ok`: what the scanner accepts from where it stands.
* `parseEntries_eq_ok`: what a playlist is accepted for.
* **`playlist_grammar`**.
-/

namespace DualBoy.Frontend

open DualBoy.Lib

/-! ## Text -/

/-- The text with every line ended by a newline. -/
def unifyNewlines : List Byte → List Byte
  | c :: c' :: cs =>
    if c = carriageReturn ∧ c' = newline then newline :: unifyNewlines cs
    else (if c = carriageReturn then newline else c) :: unifyNewlines (c' :: cs)
  | [c] => [if c = carriageReturn then newline else c]
  | [] => []

/-- The lines of a text, the last one also if nothing ends it. -/
def textLines (data : List Byte) : List (List Byte) :=
  (unifyNewlines data).splitOn newline

/-- Space, tab, vertical tab and form feed. -/
def Blank (c : Byte) : Prop := c = 0x20 ∨ c = 0x09 ∨ c = 0x0b ∨ c = 0x0c

instance (c : Byte) : Decidable (Blank c) :=
  inferInstanceAs (Decidable (c = 0x20 ∨ c = 0x09 ∨ c = 0x0b ∨ c = 0x0c))

/-- What is left of a line without the blanks at both its ends. -/
def Trimmed (line kept : List Byte) : Prop :=
  ∃ left right, line = left ++ kept ++ right ∧ (∀ c ∈ left, Blank c) ∧ (∀ c ∈ right, Blank c) ∧
    (∀ c, kept.head? = some c → ¬Blank c) ∧ ∀ c, kept.getLast? = some c → ¬Blank c

/-- The UTF-8 byte-order mark. -/
def byteOrderMark : List Byte := [0xef, 0xbb, 0xbf]

/-- What stands behind one byte-order mark, or all where there is none. -/
def BehindMark (data body : List Byte) : Prop :=
  data = byteOrderMark ++ body ∨ (¬byteOrderMark <+: data ∧ data = body)

/-- A trimmed line that names an entry. -/
def IsEntry (line : List Byte) : Prop :=
  line ≠ [] ∧ line.head? ≠ some hash

instance (line : List Byte) : Decidable (IsEntry line) :=
  inferInstanceAs (Decidable (line ≠ [] ∧ line.head? ≠ some hash))

/-- The lines that name entries. -/
def entryLines (data : List Byte) : List (List Byte) :=
  ((textLines data).map trimLine).filter fun line => decide (IsEntry line)

/-- The trimmed lines of a text, less the empty ones and the comments. -/
def EntryLines (text : List Byte) (lines : List (List Byte)) : Prop :=
  ∃ trimmed, List.Forall₂ Trimmed (textLines text) trimmed ∧
    lines = trimmed.filter fun line => decide (IsEntry line)

/-- The lines resolve to the entries, with the memory from the `k`-th block on. -/
def Resolved (memory : Nat → Bool) (directory : PathBytes) :
    Nat → List (List Byte) → List PathBytes → Prop
  | _, [], [] => True
  | k, line :: lines, entry :: entries =>
    resolveEntry (memory k) directory line = .ok entry ∧
      Resolved memory directory (k + 1) lines entries
  | _, _, _ => False

/-! ## Blanks and the mark -/

theorem isSpace_iff (c : Byte) : isSpace c = true ↔ Blank c := by
  unfold isSpace Blank
  simp only [Bool.or_eq_true, decide_eq_true_eq, or_assoc]

/-- The blanks at the front of a line, and the rest. -/
theorem dropWhile_spec (line : List Byte) :
    ∃ left, line = left ++ line.dropWhile isSpace ∧ (∀ c ∈ left, Blank c) ∧
      ∀ c, (line.dropWhile isSpace).head? = some c → ¬Blank c := by
  refine ⟨line.takeWhile isSpace, List.takeWhile_append_dropWhile.symm, fun c hc => ?_,
    fun c hc => ?_⟩
  · exact (isSpace_iff c).mp (List.mem_takeWhile_imp hc)
  · have hstops := List.head?_dropWhile_not isSpace line
    rw [hc] at hstops
    have hnot : isSpace c = false := hstops
    intro hblank
    rw [(isSpace_iff c).mpr hblank] at hnot
    cases hnot

/-- Blanks in front of a line that begins with none are all that is dropped. -/
theorem dropWhile_append {left kept : List Byte} (hleft : ∀ c ∈ left, Blank c)
    (hkept : ∀ c, kept.head? = some c → ¬Blank c) :
    (left ++ kept).dropWhile isSpace = kept := by
  rw [List.dropWhile_append_of_pos fun c hc => (isSpace_iff c).mpr (hleft c hc)]
  cases kept with
  | nil => rfl
  | cons c cs =>
    have hstops : ¬isSpace c = true := fun h => hkept c rfl ((isSpace_iff c).mp h)
    exact List.dropWhile_cons_of_neg hstops

/-- **The two loops take off the blanks at both ends.** -/
theorem trimmed_iff {line kept : List Byte} : Trimmed line kept ↔ trimLine line = kept := by
  unfold trimLine
  constructor
  · rintro ⟨left, right, rfl, hleft, hright, hfirst, hlast⟩
    have hback (c : Byte) (hc : kept.reverse.head? = some c) : ¬Blank c := by
      rw [List.head?_reverse] at hc
      exact hlast c hc
    cases kept with
    | nil =>
      have hall : ∀ c ∈ left ++ [] ++ right, isSpace c = true := by
        intro c hc
        rw [List.append_nil, List.mem_append] at hc
        exact (isSpace_iff c).mpr (hc.elim (hleft c) (hright c))
      rw [List.dropWhile_eq_nil_iff.mpr hall]
      rfl
    | cons c cs =>
      have hfront (c' : Byte) (hc' : (c :: cs ++ right).head? = some c') : ¬Blank c' := hfirst c' hc'
      rw [List.append_assoc, dropWhile_append hleft hfront, List.reverse_append,
        dropWhile_append (fun c' hc' => hright c' (List.mem_reverse.mp hc')) hback,
        List.reverse_reverse]
  · rintro rfl
    obtain ⟨left, hline, hleft, hfirst⟩ := dropWhile_spec line
    generalize line.dropWhile isSpace = rest at hline hfirst ⊢
    obtain ⟨right, hrest, hright, hlast⟩ := dropWhile_spec rest.reverse
    generalize rest.reverse.dropWhile isSpace = kept at hrest hlast ⊢
    have hrest' : rest = kept.reverse ++ right.reverse := by
      rw [← List.reverse_append, ← hrest, List.reverse_reverse]
    refine ⟨left, right.reverse, ?_, hleft, fun c hc => hright c (List.mem_reverse.mp hc),
      fun c hc => ?_, fun c hc => ?_⟩
    · rw [hline, hrest', List.append_assoc]
    · refine hfirst c ?_
      rw [hrest', List.head?_append, hc]
      rfl
    · rw [List.getLast?_reverse] at hc
      exact hlast c hc

/-- **The parser begins behind one mark.** -/
theorem behindMark_iff {data body : List Byte} : BehindMark data body ↔ skipByteOrderMark data = body := by
  unfold BehindMark
  constructor
  · rintro (rfl | ⟨hnone, rfl⟩)
    · rfl
    · unfold skipByteOrderMark
      split
      · rename_i c c' c'' cs
        refine if_neg ?_
        rintro ⟨rfl, rfl, rfl⟩
        exact hnone ⟨cs, rfl⟩
      · rfl
  · rintro rfl
    by_cases hmark : byteOrderMark <+: data
    · obtain ⟨body, rfl⟩ := hmark
      exact Or.inl rfl
    · refine Or.inr ⟨hmark, ?_⟩
      unfold skipByteOrderMark
      split
      · rename_i c c' c'' cs
        refine (if_neg ?_).symm
        rintro ⟨rfl, rfl, rfl⟩
        exact hmark ⟨cs, rfl⟩
      · rfl

theorem entryLines_iff {text : List Byte} {lines : List (List Byte)} :
    EntryLines text lines ↔ entryLines text = lines := by
  have htrimmed (trimmed : List (List Byte)) :
      List.Forall₂ Trimmed (textLines text) trimmed ↔ (textLines text).map trimLine = trimmed := by
    generalize textLines text = untrimmed
    induction untrimmed generalizing trimmed with
    | nil => rw [List.forall₂_nil_left_iff, List.map_nil, eq_comm]
    | cons line rest ih =>
      rw [List.forall₂_cons_left_iff, List.map_cons]
      constructor
      · rintro ⟨kept, trimmed, hline, hrest, rfl⟩
        rw [trimmed_iff.mp hline, (ih trimmed).mp hrest]
      · rintro rfl
        exact ⟨_, _, trimmed_iff.mpr rfl, (ih _).mpr rfl, rfl⟩
  unfold EntryLines entryLines
  constructor
  · rintro ⟨trimmed, hlines, rfl⟩
    rw [(htrimmed trimmed).mp hlines]
  · rintro rfl
    exact ⟨_, (htrimmed _).mpr rfl, rfl⟩

/-! ## Lines -/

/-- A byte that ends a line. -/
def EndsLine (c : Byte) : Prop := c = newline ∨ c = carriageReturn

theorem unifyNewlines_cons {c : Byte} (hc : c ≠ carriageReturn) (cs : List Byte) :
    unifyNewlines (c :: cs) = c :: unifyNewlines cs := by
  cases cs with
  | nil => rw [unifyNewlines, if_neg hc, unifyNewlines]
  | cons c' cs => rw [unifyNewlines, if_neg fun h => hc h.1, if_neg hc]

theorem unifyNewlines_append {line : List Byte} (hline : ∀ c ∈ line, c ≠ carriageReturn)
    (rest : List Byte) : unifyNewlines (line ++ rest) = line ++ unifyNewlines rest := by
  induction line with
  | nil => rfl
  | cons c cs ih =>
    rw [List.cons_append, unifyNewlines_cons (hline c List.mem_cons_self),
      ih fun c' hc' => hline c' (List.mem_cons_of_mem _ hc'), List.cons_append]

/-- The three ways to end a line are one. -/
theorem unifyNewlines_terminator {c : Byte} (hc : EndsLine c) (cs : List Byte) :
    unifyNewlines (c :: cs) = newline :: unifyNewlines (skipTerminator (c :: cs)) := by
  rcases hc with rfl | rfl
  · rw [unifyNewlines_cons (by decide)]
    cases cs with
    | nil => rfl
    | cons c' cs => rw [skipTerminator, if_neg fun h => absurd h.1 (by decide)]
  · cases cs with
    | nil => rfl
    | cons c' cs =>
      rw [unifyNewlines, skipTerminator]
      by_cases hc' : c' = newline
      · rw [if_pos ⟨rfl, hc'⟩, if_pos ⟨rfl, hc'⟩]
      · have hone : ¬(carriageReturn = carriageReturn ∧ c' = newline) := fun h => hc' h.2
        rw [if_neg hone, if_neg hone, if_pos rfl]

/-- What the scan of a line finds. -/
theorem scanLine_eq_some : ∀ {data line rest : List Byte}, scanLine data = some (line, rest) →
    data = line ++ rest ∧ (∀ c ∈ line, ¬EndsLine c ∧ c ≠ 0) ∧
      (rest = [] ∨ ∃ c cs, rest = c :: cs ∧ EndsLine c)
  | [], _, _, h => by
    obtain ⟨rfl, rfl⟩ := Prod.mk.inj (Option.some.inj h)
    exact ⟨rfl, by simp, Or.inl rfl⟩
  | c :: cs, line, rest, h => by
    unfold scanLine at h
    split at h
    · rename_i hends
      obtain ⟨rfl, rfl⟩ := Prod.mk.inj (Option.some.inj h)
      exact ⟨rfl, by simp, Or.inr ⟨c, cs, rfl, hends⟩⟩
    split at h
    · cases h
    rename_i hends hzero
    obtain ⟨⟨line', rest'⟩, hscanned, heq⟩ := Option.map_eq_some_iff.mp h
    obtain ⟨rfl, rfl⟩ := Prod.mk.inj heq
    obtain ⟨rfl, hline, hrest⟩ := scanLine_eq_some hscanned
    refine ⟨rfl, fun c' hc' => ?_, hrest⟩
    rcases List.mem_cons.mp hc' with rfl | hc'
    · exact ⟨hends, hzero⟩
    · exact hline c' hc'

/-- The scan stops early at a zero byte only. -/
theorem zero_mem_of_scanLine : ∀ {data : List Byte}, scanLine data = none → (0 : Byte) ∈ data
  | [], h => by cases h
  | c :: cs, h => by
    unfold scanLine at h
    split at h
    · cases h
    split at h
    · rename_i hzero
      rw [hzero]
      exact List.mem_cons_self
    · exact List.mem_cons_of_mem _ (zero_mem_of_scanLine (Option.map_eq_none_iff.mp h))

/-- The end of a line holds no zero byte. -/
theorem zero_mem_skipTerminator {c : Byte} (hc : EndsLine c) (cs : List Byte) :
    (0 : Byte) ∈ c :: cs ↔ (0 : Byte) ∈ skipTerminator (c :: cs) := by
  have hzero : ∀ c : Byte, EndsLine c → (0 : Byte) ≠ c := by
    rintro c (rfl | rfl)
    · decide
    · decide
  rw [List.mem_cons, or_iff_right (hzero c hc)]
  cases cs with
  | nil => simp [skipTerminator]
  | cons c' cs =>
    rw [skipTerminator]
    by_cases hboth : c = carriageReturn ∧ c' = newline
    · rw [if_pos hboth, List.mem_cons, or_iff_right (hzero c' (Or.inl hboth.2))]
    · rw [if_neg hboth]

/-- **One turn of the scanner takes one line of the text**, and with it all the zero bytes that it
passes. -/
theorem entryLines_eq {data line rest : List Byte} (h : scanLine data = some (line, rest)) :
    entryLines data =
        (if IsEntry (trimLine line) then [trimLine line] else []) ++
          entryLines (skipTerminator rest) ∧
      ((0 : Byte) ∈ data ↔ (0 : Byte) ∈ skipTerminator rest) := by
  obtain ⟨rfl, hline, hrest⟩ := scanLine_eq_some h
  have hreturn : ∀ c ∈ line, c ≠ carriageReturn := fun c hc heq => (hline c hc).1 (Or.inr heq)
  have hnewline : newline ∉ line := fun hmem => (hline _ hmem).1 (Or.inl rfl)
  have hzero : (0 : Byte) ∉ line := fun hmem => (hline _ hmem).2 rfl
  have hfirst (lines : List (List Byte)) :
      ((line :: lines).map trimLine).filter (fun line => decide (IsEntry line)) =
        (if IsEntry (trimLine line) then [trimLine line] else []) ++
          (lines.map trimLine).filter fun line => decide (IsEntry line) := by
    rw [List.map_cons, List.filter_cons]
    by_cases hentry : IsEntry (trimLine line)
    · rw [if_pos (decide_eq_true hentry), if_pos hentry, List.singleton_append]
    · rw [if_neg (by rw [decide_eq_false hentry]; decide), if_neg hentry, List.nil_append]
  unfold entryLines textLines
  rcases hrest with rfl | ⟨c, cs, rfl, hc⟩
  · have hempty : ((([] : List (List Byte)).map trimLine).filter fun line =>
        decide (IsEntry line)) = (((unifyNewlines (skipTerminator [])).splitOn newline).map
          trimLine).filter fun line => decide (IsEntry line) := by decide
    rw [unifyNewlines_append hreturn, unifyNewlines, List.append_nil,
      List.splitOn_eq_singleton hnewline, hfirst, hempty]
    exact ⟨rfl, iff_of_false hzero (by decide)⟩
  · rw [unifyNewlines_append hreturn, unifyNewlines_terminator hc,
      List.splitOn_append_cons_self_of_not_mem hnewline, hfirst, List.mem_append,
      or_iff_right hzero, zero_mem_skipTerminator hc]
    exact ⟨rfl, Iff.rfl⟩

/-! ## The scanner -/

theorem resolved_nil {memory : Nat → Bool} {directory : PathBytes} {k : Nat}
    {new : List PathBytes} : Resolved memory directory k [] new ↔ new = [] := by
  cases new with
  | nil => exact iff_of_true trivial rfl
  | cons entry new => exact iff_of_false id (List.cons_ne_nil _ _)

theorem resolved_cons {memory : Nat → Bool} {directory : PathBytes} {k : Nat} {line : List Byte}
    {lines : List (List Byte)} {new : List PathBytes} :
    Resolved memory directory k (line :: lines) new ↔
      ∃ entry rest, new = entry :: rest ∧ resolveEntry (memory k) directory line = .ok entry ∧
        Resolved memory directory (k + 1) lines rest := by
  cases new with
  | nil => exact iff_of_false id (by simp)
  | cons entry new =>
    constructor
    · rintro ⟨hentry, hrest⟩
      exact ⟨entry, new, rfl, hentry, hrest⟩
    · rintro ⟨entry', rest, heq, hentry, hrest⟩
      obtain ⟨rfl, rfl⟩ := List.cons.inj heq
      exact ⟨hentry, hrest⟩

/-- **What the scanner accepts** from where it stands: no zero byte, and lines that bring the entries
to two. -/
theorem parseLoop_eq_ok (memory : Nat → Bool) (directory : PathBytes) (entries : List PathBytes)
    (data : List Byte) (result : List PathBytes) :
    parseLoop memory directory entries data = .ok result ↔
      (0 : Byte) ∉ data ∧ ∃ new,
        Resolved memory directory (entries.length + 1) (entryLines data) new ∧
          result = entries ++ new ∧ result.length = playlistEntryCount := by
  fun_induction parseLoop memory directory entries data with
  | case1 entries hcount =>
    refine iff_of_false (by simp) ?_
    rintro ⟨-, new, hresolved, rfl, hlength⟩
    obtain rfl := resolved_nil.mp hresolved
    rw [List.append_nil] at hlength
    exact hcount hlength
  | case2 entries hcount =>
    constructor
    · intro h
      obtain rfl := Except.ok.inj h
      exact ⟨by decide, [], trivial, (List.append_nil _).symm, not_not.mp hcount⟩
    · rintro ⟨-, new, hresolved, rfl, -⟩
      obtain rfl := resolved_nil.mp hresolved
      rw [List.append_nil]
  | case3 entries c cs hscanned =>
    exact iff_of_false (by simp) fun h => h.1 (zero_mem_of_scanLine hscanned)
  | case4 entries c cs line rest hscanned entry hskipped ih =>
    obtain ⟨hlines, hzero⟩ := entryLines_eq hscanned
    have hnot : ¬IsEntry (trimLine line) := fun h => hskipped.elim h.1 h.2
    rw [if_neg hnot, List.nil_append] at hlines
    rw [ih, hlines, hzero]
  | case5 entries c cs line rest hscanned entry hnamed hfull =>
    obtain ⟨hlines, -⟩ := entryLines_eq hscanned
    have hentry : IsEntry (trimLine line) := not_or.mp hnamed
    rw [if_pos hentry, List.singleton_append] at hlines
    refine iff_of_false (by simp) ?_
    rintro ⟨-, new, hresolved, rfl, hlength⟩
    rw [hlines] at hresolved
    obtain ⟨entry, new, rfl, -, -⟩ := resolved_cons.mp hresolved
    rw [List.length_append, List.length_cons] at hlength
    omega
  | case6 entries c cs line rest hscanned entry hnamed hroom result hfailed =>
    obtain ⟨hlines, -⟩ := entryLines_eq hscanned
    have hentry : IsEntry (trimLine line) := not_or.mp hnamed
    rw [if_pos hentry, List.singleton_append] at hlines
    refine iff_of_false (by simp) ?_
    rintro ⟨-, new, hresolved, -, -⟩
    rw [hlines] at hresolved
    obtain ⟨entry', new, -, hok, -⟩ := resolved_cons.mp hresolved
    rw [hok] at hfailed
    cases hfailed
  | case7 entries c cs line rest hscanned entry hnamed hroom resolved hok ih =>
    obtain ⟨hlines, hzero⟩ := entryLines_eq hscanned
    have hentry : IsEntry (trimLine line) := not_or.mp hnamed
    rw [if_pos hentry, List.singleton_append] at hlines
    rw [ih, hlines, hzero]
    refine and_congr_right fun _ => ?_
    rw [List.length_append, List.length_singleton]
    constructor
    · rintro ⟨new, hresolved, rfl, hlength⟩
      exact ⟨resolved :: new, resolved_cons.mpr ⟨resolved, new, rfl, hok, hresolved⟩,
        by rw [List.append_assoc, List.singleton_append], hlength⟩
    · rintro ⟨new, hresolved, rfl, hlength⟩
      obtain ⟨resolved', new, rfl, hok', hrest⟩ := resolved_cons.mp hresolved
      obtain rfl := Except.ok.inj (hok.symm.trans hok')
      exact ⟨new, hrest, by rw [List.append_assoc, List.singleton_append], hlength⟩

/-! ## The grammar -/

/-- Two entries are resolved from two lines. -/
theorem resolved_two {memory : Nat → Bool} {directory : PathBytes} {k : Nat}
    {lines : List (List Byte)} {entries : List PathBytes} :
    Resolved memory directory k lines entries ∧ entries.length = playlistEntryCount ↔
      ∃ first second entry0 entry1, lines = [first, second] ∧ entries = [entry0, entry1] ∧
        resolveEntry (memory k) directory first = .ok entry0 ∧
        resolveEntry (memory (k + 1)) directory second = .ok entry1 := by
  constructor
  · rintro ⟨hresolved, hlength⟩
    match lines, entries, hresolved with
    | [first, second], [entry0, entry1], ⟨h0, h1, _⟩ =>
      exact ⟨first, second, entry0, entry1, rfl, rfl, h0, h1⟩
    | [], [], _ => cases hlength
    | [_], [_], _ => cases hlength
    | _ :: _ :: _ :: _, _ :: _ :: _ :: _, _ => cases hlength
  · rintro ⟨first, second, entry0, entry1, rfl, rfl, h0, h1⟩
    exact ⟨⟨h0, h1, trivial⟩, rfl⟩

/-- What a playlist is accepted for. -/
theorem parseEntries_eq_ok (memory : Nat → Bool) (playlistPath : PathBytes) (data : List Byte)
    (entries : List PathBytes) :
    parseEntries memory playlistPath data = .ok entries ↔
      ∃ directory, playlistDirectory (memory 0) playlistPath playlistPathCapacity = .ok directory ∧
        data.length ≤ playlistFileLimit ∧ (0 : Byte) ∉ skipByteOrderMark data ∧
        ∃ first second entry0 entry1,
          entryLines (skipByteOrderMark data) = [first, second] ∧ entries = [entry0, entry1] ∧
          resolveEntry (memory 1) directory first = .ok entry0 ∧
          resolveEntry (memory 2) directory second = .ok entry1 := by
  unfold parseEntries
  cases hdirectory : playlistDirectory (memory 0) playlistPath playlistPathCapacity with
  | error result => exact iff_of_false (by simp) (by simp)
  | ok directory =>
    dsimp only
    by_cases hlong : playlistFileLimit < data.length
    · rw [if_pos hlong]
      refine iff_of_false (by simp) ?_
      rintro ⟨-, -, hshort, -⟩
      omega
    · rw [if_neg hlong, parseLoop_eq_ok]
      constructor
      · rintro ⟨hzero, new, hresolved, rfl, hlength⟩
        exact ⟨directory, rfl, Nat.not_lt.mp hlong, hzero, resolved_two.mp ⟨hresolved, hlength⟩⟩
      · rintro ⟨directory', hsame, -, hzero, hlines⟩
        obtain rfl := Except.ok.inj hsame
        obtain ⟨hresolved, hlength⟩ := resolved_two.mpr hlines
        exact ⟨hzero, entries, hresolved, rfl, hlength⟩

/-- Only what is found is reported as found. -/
theorem playlistParse_eq_ok {memory : Nat → Bool} {playlistPath : PathBytes} {data : List Byte}
    {playlist entries : List PathBytes} :
    playlistParse memory playlistPath data playlist = (.ok, entries) ↔
      parseEntries memory playlistPath data = .ok entries := by
  unfold playlistParse
  cases hentries : parseEntries memory playlistPath data with
  | error result =>
    have hne : result ≠ .ok := fun h => parseEntries_ne_ok memory playlistPath data (h ▸ hentries)
    exact iff_of_false (fun h => hne (Prod.mk.inj h).1) (by simp)
  | ok candidate => simp

/-- **The playlist grammar.** A playlist is accepted exactly when its path has a directory, it is not
too long, and behind one byte-order mark it holds no zero byte and two lines that name an entry, both
of which resolve; the entries are what they resolve to. A refused playlist leaves the caller's. -/
theorem playlist_grammar (memory : Nat → Bool) (playlistPath : PathBytes) (data : List Byte)
    (playlist entries : List PathBytes) :
    (playlistParse memory playlistPath data playlist = (.ok, entries) ↔
      ∃ directory, playlistDirectory (memory 0) playlistPath playlistPathCapacity = .ok directory ∧
        data.length ≤ playlistFileLimit ∧ ∃ text, BehindMark data text ∧ (0 : Byte) ∉ text ∧
          ∃ first second entry0 entry1,
            EntryLines text [first, second] ∧ entries = [entry0, entry1] ∧
            resolveEntry (memory 1) directory first = .ok entry0 ∧
            resolveEntry (memory 2) directory second = .ok entry1) ∧
    ((playlistParse memory playlistPath data playlist).1 ≠ .ok →
      (playlistParse memory playlistPath data playlist).2 = playlist) := by
  constructor
  · rw [playlistParse_eq_ok, parseEntries_eq_ok]
    simp only [behindMark_iff, entryLines_iff, exists_eq_left']
  · unfold playlistParse
    cases parseEntries memory playlistPath data with
    | error result => exact fun _ => rfl
    | ok candidate => exact fun hfailed => absurd rfl hfailed

/-- A mark, a comment, blanks of every kind and line ends of every kind. -/
def sampleData : List Byte :=
  byteOrderMark ++ bytesOf "  # two games\r\n\t a.gba \x0c\n\x0b\rsub/b.gba\r"

/-- Its two entries are found. -/
theorem playlist_grammar_sample :
    playlistParse (fun _ => true) (bytesOf "dir/pair.m3u") sampleData [] =
      (.ok, [bytesOf "dir/a.gba", bytesOf "dir/sub/b.gba"]) := by
  refine (playlist_grammar _ _ _ _ _).1.mpr ⟨bytesOf "dir", ?_, by decide,
    bytesOf "  # two games\r\n\t a.gba \x0c\n\x0b\rsub/b.gba\r", Or.inl rfl, by decide,
    bytesOf "a.gba", bytesOf "sub/b.gba", bytesOf "dir/a.gba", bytesOf "dir/sub/b.gba", ?_, rfl, ?_,
    ?_⟩
  · unfold playlistDirectory
    rw [normalizePath_eq]
    decide
  · exact entryLines_iff.mpr (by decide)
  · unfold resolveEntry
    rw [show joinEntry (bytesOf "dir") (bytesOf "a.gba") = .ok (bytesOf "dir/a.gba") by decide]
    dsimp only
    rw [normalizePath_eq]
    decide
  · unfold resolveEntry
    rw [show joinEntry (bytesOf "dir") (bytesOf "sub/b.gba") = .ok (bytesOf "dir/sub/b.gba") by
      decide]
    dsimp only
    rw [normalizePath_eq]
    decide

end DualBoy.Frontend
