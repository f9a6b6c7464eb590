import Mathlib.Data.List.DropRight
import Mathlib.Data.List.TakeWhile
import Tollgate.Admin.Route
import Tollgate.Cli.Url
import Tollgate.Proofs.Text.Percent

/-!
The way of a path from a client to a server. The client splits it at slashes,
resolves its dots, and encodes each segment; the server splits what it is sent
again. So what the server has is segments of what the client was given, encoded.
-/

namespace Tollgate

namespace Url

variable {c : Char} {segment text rest : List Char}
  {segments reversed : List (List Char)}

/-! Segments -/

theorem splitPath_cons_slash (slash : isSlash c) (rest : List Char) :
    splitPath (c :: rest) = [] :: splitPath rest := by
  rw [splitPath, if_pos slash]

theorem splitPath_ne_nil (text : List Char) : splitPath text ≠ [] := by
  cases text with
  | nil => exact List.cons_ne_nil _ _
  | cons c rest =>
      unfold splitPath
      split
      · exact List.cons_ne_nil _ _
      · split <;> exact List.cons_ne_nil _ _

theorem splitPath_append (slash : isSlash c) (text rest : List Char) :
    splitPath (text ++ c :: rest) = splitPath text ++ splitPath rest := by
  induction text with
  | nil => exact splitPath_cons_slash slash rest
  | cons d text ih =>
      by_cases here : isSlash d
      · rw [List.cons_append, splitPath_cons_slash here, ih,
          splitPath_cons_slash here, List.cons_append]
      · obtain ⟨first, others, split⟩ :=
          List.exists_cons_of_ne_nil (splitPath_ne_nil text)
        rw [List.cons_append, splitPath, if_neg here, ih, splitPath,
          if_neg here, split]
        rfl

theorem splitPath_eq_singleton (plain : ∀ c ∈ text, isSlash c = false) :
    splitPath text = [text] := by
  induction text with
  | nil => rfl
  | cons c rest ih =>
      rw [List.forall_mem_cons] at plain
      rw [splitPath, plain.1, ih plain.2]
      rfl

theorem mem_splitPath (member : segment ∈ splitPath text) :
    segment.Sublist text ∧ ∀ c ∈ segment, isSlash c = false := by
  induction text generalizing segment with
  | nil =>
      rw [List.mem_singleton.mp member]
      exact ⟨.refl _, nofun⟩
  | cons c rest ih =>
      by_cases here : isSlash c
      · rw [splitPath_cons_slash here, List.mem_cons] at member
        rcases member with rfl | member
        · exact ⟨List.nil_sublist _, nofun⟩
        · exact ⟨(ih member).1.cons c, (ih member).2⟩
      · obtain ⟨first, others, split⟩ :=
          List.exists_cons_of_ne_nil (splitPath_ne_nil rest)
        rw [splitPath, if_neg here, split] at member
        rw [split] at ih
        rcases List.mem_cons.mp member with rfl | member
        · obtain ⟨sub, plain⟩ := ih List.mem_cons_self
          refine ⟨sub.cons_cons c, ?_⟩
          rw [List.forall_mem_cons]
          exact ⟨eq_false_of_ne_true here, plain⟩
        · obtain ⟨sub, plain⟩ := ih (List.mem_cons_of_mem _ member)
          exact ⟨sub.cons c, plain⟩

/-! Dots -/

def isProper (segment : List Char) : Bool :=
  !isDot segment && !isDoubleDot segment

theorem resolveDots_proper (proper : ∀ s ∈ segments, isProper s)
    (reversed : List (List Char)) :
    resolveDots reversed segments = reversed.reverse ++ segments := by
  induction segments generalizing reversed with
  | nil => rw [resolveDots, List.append_nil]
  | cons segment rest ih =>
      rw [List.forall_mem_cons] at proper
      have stays := proper.1
      simp only [isProper, Bool.and_eq_true, Bool.not_eq_true'] at stays
      simp only [resolveDots, stays.1, stays.2, Bool.false_eq_true, if_false,
        ih proper.2, List.reverse_cons, List.append_assoc,
        List.singleton_append]

theorem mem_goBack (member : segment ∈ goBack reversed) :
    segment ∈ reversed := by
  cases reversed with
  | nil => exact member
  | cons first others =>
      simp only [goBack] at member
      split at member
      · exact member
      · exact List.mem_cons_of_mem _ member

theorem mem_resolveDots (member : segment ∈ resolveDots reversed segments) :
    segment ∈ reversed ∨ segment = [] ∨
      segment ∈ segments ∧ isProper segment := by
  induction segments generalizing reversed with
  | nil => exact .inl (List.mem_reverse.mp member)
  | cons first rest ih =>
      have onward (found : segment = [] ∨ segment ∈ rest ∧ isProper segment) :
          segment ∈ reversed ∨ segment = [] ∨
            segment ∈ first :: rest ∧ isProper segment :=
        .inr (found.imp_right fun later =>
          ⟨List.mem_cons_of_mem _ later.1, later.2⟩)
      have ended {back : List (List Char)}
          (found : segment ∈ if rest.isEmpty then [] :: back else back) :
          segment = [] ∨ segment ∈ back := by
        split at found
        · exact List.mem_cons.mp found
        · exact .inr found
      simp only [resolveDots] at member
      split at member
      · rcases ih member with found | found
        · rcases ended found with empty | found
          · exact .inr (.inl empty)
          · exact .inl (mem_goBack found)
        · exact onward found
      · split at member
        · rcases ih member with found | found
          · rcases ended found with empty | found
            · exact .inr (.inl empty)
            · exact .inl found
          · exact onward found
        · rename_i double single
          rcases ih member with found | found
          · rcases List.mem_cons.mp found with rfl | found
            · have stays : isProper segment := by
                simp [isProper, double, single]
              exact .inr (.inr ⟨List.mem_cons_self, stays⟩)
            · exact .inl found
          · exact onward found

theorem resolveDots_ne_nil (occupied : reversed ≠ [] ∨ segments ≠ []) :
    resolveDots reversed segments ≠ [] := by
  induction segments generalizing reversed with
  | nil => simpa [resolveDots] using occupied
  | cons first rest ih =>
      have ended (back : List (List Char)) :
          (if rest.isEmpty then [] :: back else back) ≠ [] ∨ rest ≠ [] := by
        cases rest with
        | nil => exact .inl (List.cons_ne_nil _ _)
        | cons => exact .inr (List.cons_ne_nil _ _)
      simp only [resolveDots]
      split
      · exact ih (ended _)
      · split
        · exact ih (ended _)
        · exact ih (.inl (List.cons_ne_nil _ _))

/-! What is sent -/

theorem isPathChar_of_hexValue (hex : (digitsValue.hexValue c).isSome) :
    isPathChar c := by
  have ascii := Percent.ascii_of_hexValue hex
  revert hex
  refine Percent.of_ascii ?_ ascii
  decide

theorem keepsEscapes_isPathChar : Percent.KeepsEscapes isPathChar :=
  ⟨by decide, fun _ => isPathChar_of_hexValue⟩

/-- The segments of a path that are sent, before they are encoded. -/
def sentSegments (path : List Char) : List (List Char) :=
  resolveDots [] (splitPath path)

def written (segments : List (List Char)) : List Char :=
  segments.flatMap fun segment => '/' :: Percent.encode isPathChar segment

theorem normalizePath_slash (path : List Char) :
    normalizePath ('/' :: path) = written (sentSegments path) := rfl

theorem sentSegments_ne_nil (path : List Char) : sentSegments path ≠ [] :=
  resolveDots_ne_nil (.inr (splitPath_ne_nil path))

theorem mem_sentSegments {path : List Char}
    (member : segment ∈ sentSegments path) :
    segment = [] ∨ segment ∈ splitPath path ∧ isProper segment :=
  (mem_resolveDots member).resolve_left List.not_mem_nil

theorem slash_not_mem {path : List Char}
    (member : segment ∈ sentSegments path) :
    '/' ∉ Percent.encode isPathChar segment := by
  intro slash
  rcases Percent.mem_encode slash with ⟨inside, -⟩ | percent | hex
  · rcases mem_sentSegments member with rfl | ⟨part, -⟩
    · cases inside
    · exact absurd ((mem_splitPath part).2 '/' inside) (by decide)
  · cases percent
  · cases hex

theorem isPathChar_of_mem_written {segments : List (List Char)}
    (member : c ∈ written segments) : isPathChar c := by
  obtain ⟨segment, -, found⟩ := List.mem_flatMap.mp member
  rcases List.mem_cons.mp found with rfl | found
  · decide
  · rcases Percent.mem_encode found with ⟨-, kept⟩ | rfl | hex
    · exact kept
    · decide
    · exact isPathChar_of_hexValue hex

theorem splitAtChar_encode_written {segments : List (List Char)}
    (first : '/' ∉ Percent.encode isPathChar segment)
    (others : ∀ s ∈ segments, '/' ∉ Percent.encode isPathChar s) :
    splitAtChar '/' (Percent.encode isPathChar segment ++ written segments) =
      Percent.encode isPathChar segment ::
        segments.map (Percent.encode isPathChar) := by
  induction segments generalizing segment with
  | nil =>
      rw [written, List.flatMap_nil, List.append_nil,
        splitAtChar_eq_singleton first, List.map_nil]
  | cons second rest ih =>
      rw [List.forall_mem_cons] at others
      rw [written, List.flatMap_cons, List.cons_append,
        splitAtChar_append first]
      exact congrArg _ (ih others.1 others.2)

/-- The server finds the segments that were sent. -/
theorem splitAtChar_written (path : List Char) :
    splitAtChar '/' (written (sentSegments path)) =
      [] :: (sentSegments path).map (Percent.encode isPathChar) := by
  obtain ⟨first, others, sent⟩ :=
    List.exists_cons_of_ne_nil (sentSegments_ne_nil path)
  have plain : ∀ s ∈ sentSegments path, '/' ∉ Percent.encode isPathChar s :=
    fun s member => slash_not_mem member
  rw [sent, List.forall_mem_cons] at plain
  rw [sent, written, List.flatMap_cons, List.cons_append]
  exact (splitAtChar_append List.not_mem_nil _).trans
    (congrArg _ (splitAtChar_encode_written plain.1 plain.2))

theorem head?_written (path : List Char) :
    (written (sentSegments path)).head? = some '/' := by
  obtain ⟨first, others, sent⟩ :=
    List.exists_cons_of_ne_nil (sentSegments_ne_nil path)
  rw [sent]
  rfl

end Url

namespace Target

variable {c : Char} {path query : List Char}

theorem isPathChar_of_url (kept : Url.isPathChar c) :
    isPathChar c ∧ endsPath c = false := by
  have ascii : c.toNat < 128 := by
    simp only [Url.isPathChar, Url.isPrintableAscii, Bool.and_eq_true,
      decide_eq_true_eq] at kept
    omega
  revert kept
  refine Percent.of_ascii ?_ ascii
  decide

theorem eq_of_pathOf?_append (plain : ∀ c ∈ path, Url.isPathChar c)
    (after : ∀ c ∈ query.head?, endsPath c) (some : path ≠ [])
    {found : List Char} (reads : pathOf? (path ++ query) = .some found) :
    found = path := by
  have own : ∀ c ∈ path, (!endsPath c) = true := by
    intro c member
    rw [(isPathChar_of_url (plain c member)).2]
    rfl
  have none : query.takeWhile (!endsPath ·) = [] := by
    cases query with
    | nil => rfl
    | cons c rest => simp [after c rfl]
  have path' : (path ++ query).takeWhile (!endsPath ·) = path := by
    rw [List.takeWhile_append_of_pos own, none, List.append_nil]
  simp only [pathOf?, path', Option.ite_none_right_eq_some, Option.some.injEq]
    at reads
  rw [if_neg (by simpa using some)] at reads
  exact reads.2.symm

theorem pathOf?_eq_self (plain : ∀ c ∈ path, Url.isPathChar c)
    (some : path ≠ []) : pathOf? path = .some path := by
  have own : ∀ c ∈ path, (!endsPath c) = true := by
    intro c member
    rw [(isPathChar_of_url (plain c member)).2]
    rfl
  have fits : path.all isPathChar := by
    rw [List.all_eq_true]
    exact fun c member => (isPathChar_of_url (plain c member)).1
  have whole : path.takeWhile (!endsPath ·) = path :=
    List.takeWhile_eq_self_iff.mpr own
  have nothing : path.dropWhile (!endsPath ·) = [] :=
    List.dropWhile_eq_nil_iff.mpr own
  simp only [pathOf?, whole, nothing, fits, Bool.and_self, if_true]
  rw [if_neg (by simpa using some)]

theorem path?_slash (rest : List Char) :
    path? (String.ofList ('/' :: rest)) =
      if (String.ofList ('/' :: rest)).utf8ByteSize > longestTarget then none
      else pathOf? ('/' :: rest) := by
  rw [path?, String.toList_ofList]
  rfl

end Target

namespace Url

variable {c : Char} {text path rest : List Char}

/-! Reading an address -/

/-- Whether a character is left out of an address wherever it stands. -/
def isOmitted (c : Char) : Bool :=
  c == '\t' || c == '\n' || c == '\r'

/-- What is left of the end of an address. -/
def tidy (text : List Char) : List Char :=
  (text.rdropWhile isControlOrBlank).filter (!isOmitted ·)

theorem rdropWhile_append (solid : isControlOrBlank c = false)
    (text rest : List Char) :
    (text ++ c :: rest).rdropWhile isControlOrBlank =
      text ++ c :: rest.rdropWhile isControlOrBlank := by
  induction rest using List.reverseRecOn with
  | nil => exact List.rdropWhile_concat_neg _ _ _ (by rw [solid]; nofun)
  | append_singleton rest d ih =>
      rw [← List.cons_append, ← List.append_assoc]
      by_cases blank : isControlOrBlank d
      · rw [List.rdropWhile_concat_pos _ _ _ blank, ih,
          List.rdropWhile_concat_pos _ _ _ blank]
      · rw [List.rdropWhile_concat_neg _ _ _ blank,
          List.rdropWhile_concat_neg _ _ _ blank, List.append_assoc]
        rfl

theorem rdropWhile_eq_self_iff :
    text.rdropWhile isControlOrBlank = text ↔
      ∀ c ∈ text.getLast?, isControlOrBlank c = false := by
  rw [List.rdropWhile_eq_self_iff]
  constructor
  · intro solid c last
    obtain ⟨some, rfl⟩ := List.mem_getLast?_eq_getLast last
    exact eq_false_of_ne_true (solid some)
  · intro solid some
    rw [solid _ (List.getLast?_eq_some_getLast some)]
    nofun

/-- The address of a host, and nothing else. -/
structure Origin where
  authority : List Char
  host : String
  portNumber : Nat
  plain : ∀ c ∈ authority, isAuthorityChar c ∧ isControlOrBlank c = false
  hostText : host? (splitHost (afterUser authority)).1 = some host
  numberText : portNumber? (splitHost (afterUser authority)).2 =
    some portNumber

namespace Origin

def address (o : Origin) : List Char := "http://".toList ++ o.authority

def urlOf (o : Origin) (path : List Char) : Url where
  host := o.host
  portNumber := o.portNumber
  target := targetOf path
  fragment := fragmentOf path

theorem authority_ne_nil (o : Origin) : o.authority ≠ [] := by
  intro empty
  have host := o.hostText
  rw [empty] at host
  cases host

theorem not_isOmitted (solid : isControlOrBlank c = false) :
    (!isOmitted c) = true := by
  rw [Bool.not_eq_true', ← Bool.not_eq_true]
  intro omitted
  simp only [isOmitted, Bool.or_eq_true, beq_iff_eq] at omitted
  rcases omitted with (rfl | rfl) | rfl <;> cases solid

theorem clean_address (o : Origin) (path : List Char) :
    clean (o.address ++ '/' :: path) = o.address ++ '/' :: tidy path := by
  have solid : ∀ c ∈ o.address, isControlOrBlank c = false := by
    intro c member
    rcases List.mem_append.mp member with scheme | inside
    · have letters : "http://".toList.all (!isControlOrBlank ·) = true := by
        decide
      simpa using List.all_eq_true.mp letters c scheme
    · exact (o.plain c inside).2
  have start : (o.address ++ '/' :: path).dropWhile isControlOrBlank =
      o.address ++ '/' :: path := rfl
  have omitted : (fun c => c != '\t' && c != '\n' && c != '\r') =
      (!isOmitted ·) := by
    funext c
    simp only [isOmitted, Bool.not_or]
    rfl
  have front : o.address.filter (!isOmitted ·) = o.address :=
    List.filter_eq_self.mpr fun c member => not_isOmitted (solid c member)
  have slash : isControlOrBlank '/' = false := by decide
  unfold clean trim
  rw [start, omitted]
  change (List.rdropWhile _ _).filter _ = _
  rw [rdropWhile_append slash, List.filter_append, front, List.filter_cons,
    if_pos (by decide), tidy]

theorem parse?_address (o : Origin) (path : List Char) :
    Url.parse? (String.ofList (o.address ++ '/' :: path)) =
      some (o.urlOf ('/' :: tidy path)) := by
  obtain ⟨first, others, split⟩ :=
    List.exists_cons_of_ne_nil o.authority_ne_nil
  have own : ∀ c ∈ o.authority, isAuthorityChar c :=
    fun c member => (o.plain c member).1
  have scheme : scheme? (o.address ++ '/' :: tidy path) =
      some ("http".toList,
        '/' :: '/' :: (o.authority ++ '/' :: tidy path)) := rfl
  have slashes : ('/' :: '/' :: (o.authority ++ '/' :: tidy path)).dropWhile
      isSlash = o.authority ++ '/' :: tidy path := by
    have head : isSlash first = false := by
      have := own first (by rw [split]; exact List.mem_cons_self)
      simp only [isAuthorityChar, Bool.and_eq_true, Bool.not_eq_true'] at this
      exact this.1.1
    rw [split]
    simp [List.dropWhile, head, show isSlash '/' = true from rfl]
  have taken : (o.authority ++ '/' :: tidy path).takeWhile isAuthorityChar =
      o.authority := by
    rw [List.takeWhile_append_of_pos own]
    simp [show isAuthorityChar '/' = false from rfl]
  have left : (o.authority ++ '/' :: tidy path).dropWhile isAuthorityChar =
      '/' :: tidy path := by
    rw [List.dropWhile_append_of_pos own]
    rfl
  unfold Url.parse?
  rw [String.toList_ofList, clean_address, scheme]
  simp only [Option.bind_eq_bind, Option.bind_some, if_true, slashes, taken,
    left, o.hostText, o.numberText]
  rfl

end Origin

end Url

end Tollgate
