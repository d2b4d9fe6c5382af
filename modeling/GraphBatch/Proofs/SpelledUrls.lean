import Mathlib.Data.List.TakeDrop
import Mathlib.Data.List.TakeWhile
import GraphBatch.Config
import GraphBatch.Proofs.Outcomes
import GraphBatch.Proofs.PercentEncoding

/-!
# URLs from their parts

A URL that is spelled from parts without reserved characters is read as a URL with these
parts.
-/

namespace GraphBatch.Url

/-- A URL with credentials, a host and one segment of a path, each as it is to be written. -/
def spelled (user password host segment : String) : String :=
  "postgres://" ++ user ++ ":" ++ password ++ "@" ++ host ++ "/" ++ segment

/-- What follows the two slashes. -/
def afterScheme (user password host segment : String) : List Char :=
  (user.toList ++ ':' :: password.toList) ++ '@' :: (host.toList ++ '/' :: segment.toList)

theorem toList_spelled (user password host segment : String) :
    (spelled user password host segment).toList =
      ['p', 'o', 's', 't', 'g', 'r', 'e', 's', ':', '/', '/'] ++
        afterScheme user password host segment := by
  unfold spelled afterScheme
  simp only [String.toList_append]
  repeat rw [String.toList_ofList]
  simp only [List.append_assoc, List.cons_append, List.nil_append]

/-! ## Characters that are not reserved -/

theorem ne_of_clear {char other : Char} (clear : encodedInUser char = false)
    (reserved : encodedInUser other = true) : char ≠ other := by
  rintro rfl
  rw [clear] at reserved
  cases reserved

theorem isControl_of_clear {char : Char} (clear : encodedInUser char = false) :
    isControl char = false := by
  simp only [encodedInUser, encodedInPath, encodedInFragment, Bool.or_eq_false_iff] at clear
  exact clear.1.1.1

theorem lt_of_clear {char : Char} (clear : encodedInUser char = false) : 0x20 < char.toNat := by
  have space : char.toNat ≠ ' '.toNat := fun same =>
    ne_of_clear clear (by decide : encodedInUser ' ' = true) (Char.toNat_inj.mp same)
  have least := of_decide_eq_false (Bool.or_eq_false_iff.mp (isControl_of_clear clear)).1
  have : ' '.toNat = 0x20 := rfl
  omega

theorem span_append {stops : Char → Bool} {front : List Char}
    (inside : ∀ char ∈ front, stops char = true) (stop : Char) (ends : stops stop = false)
    (rest : List Char) : (front ++ stop :: rest).span stops = (front, stop :: rest) := by
  have no : ¬ stops stop = true := by
    rw [ends]
    exact Bool.false_ne_true
  rw [List.span_eq_takeWhile_dropWhile, List.takeWhile_append_of_pos inside,
    List.dropWhile_append_of_pos inside, List.takeWhile_cons_of_neg no,
    List.dropWhile_cons_of_neg no, List.append_nil]

theorem span_all {stops : Char → Bool} {chars : List Char}
    (inside : ∀ char ∈ chars, stops char = true) : chars.span stops = (chars, []) := by
  rw [List.span_eq_takeWhile_dropWhile, List.takeWhile_eq_self_iff.mpr inside,
    List.dropWhile_eq_nil_iff.mpr inside]

/-- Without blanks and controls nothing is left out. -/
theorem relevantChars_of_printable {text : String}
    (printable : ∀ char ∈ text.toList, 0x20 < char.toNat) : relevantChars text = text.toList := by
  have untrimmed : ∀ chars : List Char, (∀ char ∈ chars, 0x20 < char.toNat) →
      chars.dropWhile (fun char => decide (char.toNat ≤ 0x20)) = chars := by
    intro chars printable
    cases chars with
    | nil => rfl
    | cons char rest =>
        have visible := (List.forall_mem_cons.mp printable).1
        exact List.dropWhile_cons_of_neg fun outer => by
          have := of_decide_eq_true outer
          omega
  have reversed : ∀ char ∈ text.toList.reverse, 0x20 < char.toNat :=
    fun char inside => printable char (List.mem_reverse.mp inside)
  have kept : ∀ char ∈ text.toList,
      (!(decide (char = '\t') || decide (char = '\n') || decide (char = '\r'))) = true := by
    intro char inside
    have visible := printable char inside
    have differ : ∀ blank : Char, blank.toNat ≤ 0x20 → decide (char = blank) = false := by
      intro blank below
      refine decide_eq_false ?_
      rintro rfl
      omega
    rw [differ '\t' (by decide), differ '\n' (by decide),
      differ '\r' (by decide)]
    rfl
  simp only [relevantChars, untrimmed _ printable, untrimmed _ reversed, List.reverse_reverse]
  exact List.filter_eq_self.mpr kept

/-! ## The parts one by one -/

theorem splitScheme?_postgres (rest : List Char) :
    splitScheme? ('p' :: 'o' :: 's' :: 't' :: 'g' :: 'r' :: 'e' :: 's' :: ':' :: rest) =
      some ("postgres", rest) := by
  have letters : List.all ['p', 'o', 's', 't', 'g', 'r', 'e', 's'] isSchemeChar = true := by
    decide
  have front := span_append (List.all_eq_true.mp letters) ':' (by decide) rest
  simp only [List.cons_append, List.nil_append] at front
  rw [splitScheme?, front]
  rfl

/-- The last at sign is the one after which there is none. -/
theorem splitLastAt_append (user : List Char) {host : List Char} (clear : '@' ∉ host) :
    splitLastAt (user ++ '@' :: host) = some (user, host) := by
  have front : ∀ char ∈ host.reverse, decide (char ≠ '@') = true := by
    intro char inside
    refine decide_eq_true fun same => clear ?_
    exact same ▸ List.mem_reverse.mp inside
  have span := span_append front '@' (by decide) user.reverse
  rw [splitLastAt, List.reverse_append, List.reverse_cons, List.append_assoc,
    List.singleton_append, span]
  simp only [List.reverse_reverse]

theorem endsAuthority_of_clear {char : Char} (clear : encodedInUser char = false) :
    endsAuthority false char = false := by
  have slash := ne_of_clear clear (by decide : encodedInUser '/' = true)
  have query := ne_of_clear clear (by decide : encodedInUser '?' = true)
  have fragment := ne_of_clear clear (by decide : encodedInUser '#' = true)
  rw [endsAuthority, decide_eq_false slash, decide_eq_false query, decide_eq_false fragment]
  rfl

theorem spanHost_of_clear {host : List Char} (clear : ∀ char ∈ host, encodedInUser char = false)
    (rest : List Char) : spanHost false false (host ++ '/' :: rest) = (host, '/' :: rest) := by
  induction host with
  | nil => rfl
  | cons char host ih =>
      obtain ⟨here, later⟩ := List.forall_mem_cons.mp clear
      have opens : char ≠ '[' := ne_of_clear here (by decide)
      have closes : char ≠ ']' := ne_of_clear here (by decide)
      have stays : ¬ ((char = ':' ∧ ¬ (false = true)) ∨ endsAuthority false char = true) := by
        rw [endsAuthority_of_clear here]
        rintro (⟨colon, _⟩ | impossible)
        · exact ne_of_clear here (by decide : encodedInUser ':' = true) colon
        · cases impossible
      rw [List.cons_append, spanHost, if_neg stays]
      simp only [if_neg opens, if_neg closes, ih later]

/-- What may not stand in a host is reserved. -/
theorem isForbiddenPlain_of_clear {char : Char} (clear : encodedInUser char = false) :
    Host.isForbiddenPlain char = false := by
  refine Bool.eq_false_iff.mpr fun forbidden => Bool.false_ne_true (clear.symm.trans ?_)
  refine List.all_eq_true.mp ?_ char (List.contains_iff_mem.mp forbidden)
  decide

/-- A host without reserved characters is kept as it is. -/
theorem ofPlain_of_clear {host : String} (clear : IsClear host) :
    Host.ofPlain host.toList = .ok (.name host) := by
  have bracket : ¬ host.toList.head? = some '[' := by
    intro first
    exact ne_of_clear (clear '[' (List.mem_of_head? first)) (by decide) rfl
  have allowed : ¬ host.toList.any Host.isForbiddenPlain = true := by
    rw [List.any_eq_true]
    rintro ⟨char, inside, forbidden⟩
    rw [isForbiddenPlain_of_clear (clear char inside)] at forbidden
    cases forbidden
  rw [Host.ofPlain, if_neg bracket, if_neg allowed, percentEncode_of_clear
    fun char inside => isControl_of_clear (clear char inside), String.ofList_toList]

/-- Credentials without reserved characters are kept as they are. -/
theorem credentials_of_clear {user password : String} (user_clear : IsClear user)
    (password_clear : IsClear password) :
    credentials (user.toList ++ ':' :: password.toList) =
      (user, if password = "" then none else some password) := by
  have front : ∀ char ∈ user.toList, decide (char ≠ ':') = true := fun char inside =>
    decide_eq_true (ne_of_clear (user_clear char inside) (by decide))
  have span := span_append front ':' (by decide) password.toList
  rw [credentials, span]
  simp only [percentEncode_of_clear user_clear, percentEncode_of_clear password_clear,
    String.ofList_toList]
  simp only [List.isEmpty_iff, String.toList_eq_nil_iff]

/-- The authority of a spelled URL. -/
theorem parseAuthority_of_clear {user password host : String} (user_clear : IsClear user)
    (password_clear : IsClear password) (host_clear : IsClear host) (named : host ≠ "")
    (segment : String) :
    parseAuthority "postgres" (afterScheme user password host segment) =
      .ok (⟨user, if password = "" then none else some password, some (.name host), none⟩,
        '/' :: segment.toList) := by
  have front : ∀ char ∈ (user.toList ++ ':' :: password.toList) ++ '@' :: host.toList,
      (!endsAuthority false char) = true := by
    intro char inside
    rw [Bool.not_eq_true']
    simp only [List.mem_append, List.mem_cons] at inside
    rcases inside with (of_user | rfl | of_password) | rfl | of_host
    · exact endsAuthority_of_clear (user_clear char of_user)
    · decide +kernel
    · exact endsAuthority_of_clear (password_clear char of_password)
    · decide +kernel
    · exact endsAuthority_of_clear (host_clear char of_host)
  have span := span_append front '/' (by decide) segment.toList
  rw [List.append_assoc, List.cons_append] at span
  have special : isSpecialScheme "postgres" = false := by decide
  have last : '@' ∉ host.toList := fun inside =>
    ne_of_clear (host_clear '@' inside) (by decide) rfl
  have read := credentials_of_clear user_clear password_clear
  obtain ⟨first, others, user_chars⟩ := List.exists_cons_of_ne_nil
    (List.append_ne_nil_of_right_ne_nil user.toList (List.cons_ne_nil ':' password.toList))
  unfold parseAuthority
  rw [user_chars] at read
  simp only [special, afterScheme, span, splitLastAt_append _ last]
  simp only [user_chars, pure_bind, read, spanHost_of_clear host_clear, ofPlain_of_clear host_clear]
  have full : host.toList.isEmpty = false := by
    rw [Bool.eq_false_iff, Ne, List.isEmpty_iff, String.toList_eq_nil_iff]
    exact named
  simp only [full, Bool.false_eq_true, false_and, if_false]
  rfl

/-- A segment that is neither empty nor made of dots, however these are written. -/
def IsSegment (segment : String) : Prop :=
  segment ≠ "" ∧ plainDots segment.toList ≠ ['.'] ∧ plainDots segment.toList ≠ ['.', '.']

theorem encodedInPath_of_clear {char : Char} (clear : encodedInUser char = false) :
    encodedInPath char = false := by
  rw [encodedInUser, Bool.or_eq_false_iff] at clear
  exact clear.1

/-- The path of a spelled URL is its segment behind a slash. -/
theorem pathAfterAuthority_of_clear {segment : String} (clear : IsClear segment)
    (dots : IsSegment segment) :
    pathAfterAuthority "postgres" ('/' :: segment.toList) = "/" ++ segment := by
  have special : isSpecialScheme "postgres" = false := by decide
  have slash : '/' ∉ segment.toList := fun inside =>
    ne_of_clear (clear '/' inside) (by decide) rfl
  have unencoded := percentEncode_of_clear
    fun char inside => encodedInPath_of_clear (clear char inside)
  have segments : Url.segments false segment.toList = [segment.toList] := by
    rw [Url.segments]
    simp only [Bool.false_and, Bool.false_eq_true, if_false, List.map_id']
    exact List.splitOn_eq_singleton slash
  have path : rootedPath "postgres" segment.toList = [segment.toList] := by
    rw [rootedPath, special, segments, addSegments, addSegment, if_neg dots.2.2, if_neg dots.2.1,
      List.nil_append, unencoded]
  have given : ¬ (¬ (false = true) ∧ ('/' :: segment.toList).isEmpty = true) := by
    rintro ⟨_, impossible⟩
    cases impossible
  have dropped : dropSlash false ('/' :: segment.toList) = segment.toList := rfl
  simp only [pathAfterAuthority, special, dropped, path, if_neg given]
  rw [← String.toList_inj, String.toList_append, pathText]
  simp

/-- Every character of a spelled URL can be seen. -/
theorem printable_spelled {user password host segment : String} (user_clear : IsClear user)
    (password_clear : IsClear password) (host_clear : IsClear host) (clear : IsClear segment) :
    ∀ char ∈ (spelled user password host segment).toList, 0x20 < char.toNat := by
  intro char inside
  rw [toList_spelled, List.mem_append, afterScheme] at inside
  rcases inside with of_scheme | inside
  · have visible : List.all ['p', 'o', 's', 't', 'g', 'r', 'e', 's', ':', '/', '/']
        (fun char => decide (0x20 < char.toNat)) = true := by decide
    exact of_decide_eq_true (List.all_eq_true.mp visible char of_scheme)
  · simp only [List.mem_append, List.mem_cons] at inside
    rcases inside with (of_user | rfl | of_password) | rfl | of_host | rfl | of_segment
    · exact lt_of_clear (user_clear char of_user)
    · decide +kernel
    · exact lt_of_clear (password_clear char of_password)
    · decide +kernel
    · exact lt_of_clear (host_clear char of_host)
    · decide +kernel
    · exact lt_of_clear (clear char of_segment)

/-- A spelled URL is read as the URL with these parts. -/
theorem parse_spelled {user password host segment : String} (user_clear : IsClear user)
    (password_clear : IsClear password) (host_clear : IsClear host) (named : host ≠ "")
    (clear : IsClear segment) (dots : IsSegment segment) :
    parse (spelled user password host segment) =
      .ok ⟨"postgres",
        some ⟨user, if password = "" then none else some password, some (.name host), none⟩,
        "/" ++ segment, none, none⟩ := by
  have path : ∀ char ∈ '/' :: segment.toList, (!endsPath char) = true := by
    intro char inside
    rw [Bool.not_eq_true']
    rcases List.mem_cons.mp inside with rfl | inside
    · decide +kernel
    · have query := ne_of_clear (clear char inside) (by decide : encodedInUser '?' = true)
      have fragment := ne_of_clear (clear char inside)
        (by decide : encodedInUser '#' = true)
      rw [endsPath, decide_eq_false query, decide_eq_false fragment]
      rfl
  have special : isSpecialScheme "postgres" = false := by decide
  have authority := parseAuthority_of_clear user_clear password_clear host_clear named segment
  rw [parse, relevantChars_of_printable
    (printable_spelled user_clear password_clear host_clear clear), toList_spelled]
  simp only [List.cons_append, List.nil_append, splitScheme?_postgres, special]
  rw [if_neg (by decide), if_neg Bool.false_ne_true]
  rw [afterSlashes, authority]
  change Except.ok (assembled "postgres" _ (pathAfterAuthority "postgres")
    ('/' :: segment.toList)) = _
  simp only [assembled, span_all path, pathAfterAuthority_of_clear clear dots, queryAndFragment]

/-! ## Credentials of any URL -/

theorem isClear_encoded (chars : List Char) :
    IsClear (String.ofList (percentEncode encodedInUser chars)) := by
  intro char inside
  rw [String.toList_ofList] at inside
  rcases mem_percentEncode inside with clear | rfl | ⟨digit, rfl⟩
  · exact clear
  · decide +kernel
  · exact encodedInUser_upperHex digit

/-- Credentials have no reserved characters, and a password is not empty. -/
theorem isClear_credentials (chars : List Char) :
    IsClear (credentials chars).1 ∧
      ∀ password, (credentials chars).2 = some password → password ≠ "" ∧ IsClear password := by
  unfold credentials
  extract_lets encode
  split
  · exact ⟨isClear_encoded _, nofun⟩
  · refine ⟨isClear_encoded _, fun password given => ?_⟩
    split at given
    · cases given
    · rename_i written
      cases given
      refine ⟨fun empty => written ?_, isClear_encoded _⟩
      rw [← String.toList_eq_nil_iff, String.toList_ofList] at empty
      exact List.isEmpty_iff.mpr (eq_nil_of_percentEncode empty)

/-- Who is asked for are credentials that stand somewhere in the text. -/
theorem credentials_of_parseAuthority {scheme : String} {chars rest : List Char}
    {authority : Authority} (read : parseAuthority scheme chars = .ok (authority, rest)) :
    ∃ user, authority.username = (credentials user).1 ∧
      authority.password = (credentials user).2 := by
  unfold parseAuthority at read
  extract_lets special next at read
  have made : ∀ part, next part = .ok (authority, rest) → ∃ user,
      authority.username = (credentials user).1 ∧ authority.password = (credentials user).2 := by
    rintro ⟨user, host_chars⟩ read
    refine ⟨user, ?_⟩
    simp only [next] at read
    -- Whichever host and port are read, a refusal gives no authority, and what is left is
    -- the record with these credentials.
    split at read
    · cases read
    split at read
    all_goals
      obtain ⟨host, _, read⟩ := Outcome.bind_eq_ok.mp read
      split at read
      · cases read
      split at read
    all_goals
      obtain ⟨port, _, read⟩ := Outcome.bind_eq_ok.mp read
      split at read
      · cases read
      cases read
      exact ⟨rfl, rfl⟩
  split at read
  split at read
  · exact made ([], chars) read
  · split at read
    · exact made ([], []) read
    · cases read
  · obtain ⟨part, _, read⟩ := Outcome.bind_eq_ok.mp read
    exact made part read

/-- An authority whose user name and password have no reserved characters, the password
not being empty. -/
def Authority.IsClear (authority : Authority) : Prop :=
  Url.IsClear authority.username ∧
    ∀ password, authority.password = some password → password ≠ "" ∧ Url.IsClear password

theorem isClear_of_afterSlashes {scheme : String} {chars : List Char} {url : Url}
    (read : afterSlashes scheme chars = .ok url) :
    ∀ authority, url.authority = some authority → authority.IsClear := by
  rw [afterSlashes] at read
  obtain ⟨⟨made, rest⟩, parsed, read⟩ := Outcome.bind_eq_ok.mp read
  cases read
  intro authority same
  cases same
  obtain ⟨user, name, password⟩ := credentials_of_parseAuthority parsed
  rw [Authority.IsClear, name, password]
  exact isClear_credentials user

theorem exists_of_parseFile {chars : List Char} {url : Url} (read : parseFile chars = .ok url) :
    ∃ host rest, url = fileOn host rest := by
  unfold parseFile at read
  extract_lets isSlash at read
  split at read
  · split at read
    · split at read
      split at read
      · cases read
        exact ⟨_, _, rfl⟩
      · split at read
        · cases read
          exact ⟨_, _, rfl⟩
        · obtain ⟨_, _, read⟩ := Outcome.bind_eq_ok.mp read
          cases read
          exact ⟨_, _, rfl⟩
    · cases read
      exact ⟨_, _, rfl⟩
  · cases read
    exact ⟨_, _, rfl⟩

/-- The user name and the password of a URL have no reserved characters: what was written
so is encoded. -/
theorem isClear_of_parse {text : String} {url : Url} (read : parse text = .ok url) :
    ∀ authority, url.authority = some authority → authority.IsClear := by
  unfold parse at read
  split at read
  · cases read
  · split at read
    · obtain ⟨host, rest, rfl⟩ := exists_of_parseFile read
      intro authority same
      cases same
      refine ⟨fun char inside => ?_, nofun⟩
      simp at inside
    · split at read
      · exact isClear_of_afterSlashes read
      · split at read
        · exact isClear_of_afterSlashes read
        · cases read
          exact nofun
        · cases read
          exact nofun

end GraphBatch.Url
