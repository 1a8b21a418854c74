import IssuerReadiness.Proofs.BaseUrl

/-!
# Spellings of a base URL

An authority has twelve spellings: with either scheme or with none, and behind it nothing,
a slash, the path of the interface, or that path and a slash.  They are meant to be
one, and for most authorities they are.

## Authorities that end like the path

The path is taken off the end of the text, not off a URL, and the text is not looked at
before its last slash is there.  So it goes even where it is no path: where the authority
itself ends in `vedsdk`.  What is left then has no slash at its end, and is refused.  Such
an authority can still be spelled, with the path behind it, since the path is taken off
only once; but the base URL that it gives is one of the spellings that are refused.

* `MatchesAuthority`: the pattern of an authority, with `isAuthority_iff`.
* `EndsLikePath`: the authorities that lose their end.
* `complete_spelling`: what the spellings of an authority are rewritten to.
* `normalize_spelling`: which of them are accepted, and what becomes of a base URL.
-/

namespace IssuerReadiness
namespace BaseUrl

/-! ## The pattern of an authority -/

/-- The text matches `[a-z0-9]+[-a-z0-9.]+[a-z0-9][:0-9]*`, in letters of either case. -/
def MatchesAuthority (cs : List Char) : Prop :=
  ∃ head middle last port, cs = head ++ middle ++ [last] ++ port ∧
    (head ≠ [] ∧ ∀ c ∈ head, Text.isAlphanumeric c = true) ∧
    (middle ≠ [] ∧ ∀ c ∈ middle, isHostChar c = true) ∧
    Text.isAlphanumeric last = true ∧ ∀ c ∈ port, isPortChar c = true

theorem isHostChar_of_isAlphanumeric {c : Char} (h : Text.isAlphanumeric c = true) :
    isHostChar c = true := by
  rw [isHostChar, h, Bool.true_or, Bool.true_or]

/-- Digits are all that hosts and ports have in common. -/
theorem isAlphanumeric_of_isHostChar_of_isPortChar {c : Char} (hhost : isHostChar c = true)
    (hport : isPortChar c = true) : Text.isAlphanumeric c = true := by
  rcases Bool.or_eq_true_iff.1 hport with hcolon | hdigit
  · rw [beq_iff_eq.1 hcolon] at hhost
    exact absurd hhost (by decide)
  · rw [Text.isAlphanumeric, hdigit, Bool.true_or, Bool.true_or]

/-- A host is one character, some in the middle and another one. -/
theorem exists_of_isHost {cs : List Char} (h : isHost cs = true) :
    ∃ first middle last, cs = first :: middle ++ [last] ∧ Text.isAlphanumeric first = true ∧
      (middle ≠ [] ∧ ∀ c ∈ middle, isHostChar c = true) ∧ Text.isAlphanumeric last = true := by
  simp only [isHost, Bool.and_eq_true, decide_eq_true_eq] at h
  obtain ⟨⟨⟨hchars, hlength⟩, hfirst⟩, hlast⟩ := h
  obtain ⟨last, hend, hlastchar⟩ := (Option.any_eq_true _ _).1 hlast
  obtain ⟨front, rfl⟩ := List.getLast?_eq_some_iff.1 hend
  cases front with
  | nil => simp at hlength
  | cons first middle =>
    refine ⟨first, middle, last, rfl, by simpa using hfirst, ⟨?_, fun c hc => ?_⟩, hlastchar⟩
    · rintro rfl
      simp at hlength
    · exact List.all_eq_true.1 hchars c (by simp [hc])

/-- A host may go on into what the pattern takes for the port.  All that the two share are
digits, so a host that goes further still ends in a letter or digit. -/
theorem any_getLast?_append_takeWhile (front : List Char) {last : Char} {port : List Char}
    (hlast : Text.isAlphanumeric last = true) (hport : ∀ c ∈ port, isPortChar c = true) :
    (front ++ [last] ++ port.takeWhile isHostChar).getLast?.any Text.isAlphanumeric = true := by
  rw [List.getLast?_append]
  cases hlonger : (port.takeWhile isHostChar).getLast? with
  | none =>
    rw [Option.none_or, List.getLast?_concat]
    exact hlast
  | some digit =>
    have hmem : digit ∈ port.takeWhile isHostChar := List.mem_of_getLast? hlonger
    exact isAlphanumeric_of_isHostChar_of_isPortChar
      (List.all_eq_true.1 List.all_takeWhile digit hmem)
      (hport digit ((List.takeWhile_sublist _).subset hmem))

theorem matchesAuthority_of_isAuthority {cs : List Char} (h : isAuthority cs = true) :
    MatchesAuthority cs := by
  obtain ⟨hhost, hport⟩ := Bool.and_eq_true_iff.1 h
  obtain ⟨first, middle, last, hsplit, hfirst, hmiddle, hlast⟩ := exists_of_isHost hhost
  refine ⟨[first], middle, last, cs.dropWhile isHostChar, ?_, ⟨by simp, by simpa using hfirst⟩,
    hmiddle, hlast, List.all_eq_true.1 hport⟩
  calc cs = cs.takeWhile isHostChar ++ cs.dropWhile isHostChar :=
        List.takeWhile_append_dropWhile.symm
    _ = [first] ++ middle ++ [last] ++ cs.dropWhile isHostChar := by
        rw [hsplit]
        rfl

theorem isAuthority_of_matchesAuthority {cs : List Char} (h : MatchesAuthority cs) :
    isAuthority cs = true := by
  obtain ⟨head, middle, last, port, rfl, ⟨hne, hhead⟩, ⟨hmiddlene, hmiddle⟩, hlast, hport⟩ := h
  have hhost : ∀ c ∈ head ++ middle ++ [last], isHostChar c = true := by
    intro c hc
    simp only [List.mem_append, List.mem_singleton] at hc
    rcases hc with (hc | hc) | rfl
    · exact isHostChar_of_isAlphanumeric (hhead c hc)
    · exact hmiddle c hc
    · exact isHostChar_of_isAlphanumeric hlast
  obtain ⟨first, head, rfl⟩ := List.exists_cons_of_ne_nil hne
  have hlength : 0 < middle.length := List.length_pos_iff.2 hmiddlene
  have hlonger : isHost (first :: head ++ middle ++ [last] ++ port.takeWhile isHostChar) = true := by
    simp only [isHost, Bool.and_eq_true, decide_eq_true_eq]
    refine ⟨⟨⟨List.all_eq_true.2 fun c hc => ?_, ?_⟩, ?_⟩,
      any_getLast?_append_takeWhile _ hlast hport⟩
    · rcases List.mem_append.1 hc with hc | hc
      · exact hhost c hc
      · exact List.all_eq_true.1 List.all_takeWhile c hc
    · simp only [List.length_append, List.length_cons]
      omega
    · simpa using hhead first List.mem_cons_self
  rw [isAuthority, List.takeWhile_append_of_pos hhost, List.dropWhile_append_of_pos hhost,
    hlonger, Bool.true_and]
  exact List.all_eq_true.2 fun c hc => hport c ((List.dropWhile_sublist _).subset hc)

/-- The check of an authority is the match with its pattern. -/
theorem isAuthority_iff {cs : List Char} : isAuthority cs = true ↔ MatchesAuthority cs :=
  ⟨matchesAuthority_of_isAuthority, isAuthority_of_matchesAuthority⟩

/-! ## Rewriting a spelling -/

theorem slash_notMem_of_isAuthority {cs : List Char} (h : isAuthority cs = true) : '/' ∉ cs := by
  intro hmem
  rcases char_of_isAuthority h hmem with hchar | hchar
  · exact absurd hchar (by decide)
  · exact absurd hchar (by decide)

theorem ne_nil_of_isAuthority {cs : List Char} (h : isAuthority cs = true) : cs ≠ [] := by
  rintro rfl
  exact absurd h (by decide)

/-- What can stand before an authority. -/
def schemes : List (List Char) := [[], plainScheme, secureScheme]

/-- What can stand behind an authority. -/
def tails : List (List Char) := [[], ['/'], "/vedsdk".toList, "/vedsdk/".toList]

/-- No authority and tail start with a scheme, which has two slashes in a row. -/
theorem not_isPrefixOf_append {authority tail name : List Char} (h : '/' ∉ authority)
    (htail : tail ∈ tails) (hname : '/' ∉ name) :
    (name ++ ['/', '/']).isPrefixOf (authority ++ tail) = false := by
  refine Bool.eq_false_iff.2 fun hprefix => ?_
  obtain ⟨rest, hrest⟩ := List.isPrefixOf_iff_prefix.1 hprefix
  have hdrop := congrArg (List.dropWhile (· != '/')) hrest
  have hskip : ∀ cs : List Char, '/' ∉ cs → ∀ c ∈ cs, (c != '/') = true :=
    fun cs hcs c hc => bne_iff_ne.2 (ne_of_mem_of_not_mem hc hcs)
  rw [List.append_assoc, List.dropWhile_append_of_pos (hskip name hname),
    List.dropWhile_append_of_pos (hskip authority h)] at hdrop
  simp only [tails, List.mem_cons, List.not_mem_nil, or_false] at htail
  rcases htail with rfl | rfl | rfl | rfl <;> simp at hdrop

/-- Every spelling gets the secure scheme. -/
theorem withScheme_spelling {scheme authority tail : List Char} (hscheme : scheme ∈ schemes)
    (h : '/' ∉ authority) (htail : tail ∈ tails) :
    withScheme (scheme ++ (authority ++ tail)) = secureScheme ++ (authority ++ tail) := by
  simp only [schemes, List.mem_cons, List.not_mem_nil, or_false] at hscheme
  rcases hscheme with rfl | rfl | rfl
  · have hplain : plainScheme.isPrefixOf (authority ++ tail) = false :=
      not_isPrefixOf_append h htail (by decide : '/' ∉ "http:".toList)
    have hsecure : secureScheme.isPrefixOf (authority ++ tail) = false :=
      not_isPrefixOf_append h htail (by decide : '/' ∉ "https:".toList)
    rw [List.nil_append, withScheme, hplain, hsecure, if_neg Bool.false_ne_true,
      if_neg Bool.false_ne_true]
  · have hplain : plainScheme.isPrefixOf (plainScheme ++ (authority ++ tail)) = true :=
      List.isPrefixOf_iff_prefix.2 (List.prefix_append ..)
    rw [withScheme, if_pos hplain, List.drop_left]
  · have hplain : plainScheme.isPrefixOf (secureScheme ++ (authority ++ tail)) = false := rfl
    have hsecure : secureScheme.isPrefixOf (secureScheme ++ (authority ++ tail)) = true :=
      List.isPrefixOf_iff_prefix.2 (List.prefix_append ..)
    rw [withScheme, hplain, if_neg Bool.false_ne_true, if_pos hsecure]

theorem withSlash_of_concat (cs : List Char) : withSlash (cs ++ ['/']) = cs ++ ['/'] := by
  rw [withSlash, if_pos List.getLast?_concat]

theorem withSlash_append {cs : List Char} (hne : cs ≠ []) (h : '/' ∉ cs) (front : List Char) :
    withSlash (front ++ cs) = front ++ cs ++ ['/'] := by
  have hlast : (front ++ cs).getLast? ≠ some '/' := by
    obtain ⟨last, hlast⟩ := List.getLast?_isSome.2 hne |> Option.isSome_iff_exists.1
    rw [List.getLast?_append, hlast, Option.some_or]
    exact fun heq => h (Option.some.inj heq ▸ List.mem_of_getLast? hlast)
  rw [withSlash, if_neg hlast]

/-- The authority ends in the name of the path. -/
def EndsLikePath (authority : List Char) : Prop :=
  "vedsdk".toList <:+ authority

instance (authority : List Char) : Decidable (EndsLikePath authority) :=
  inferInstanceAs (Decidable ("vedsdk".toList <:+ authority))

/-- The path is taken off once. -/
theorem withoutPath_append (cs : List Char) : withoutPath (cs ++ apiPath) = cs := by
  have hsuffix : apiPath.isSuffixOf (cs ++ apiPath) = true :=
    List.isSuffixOf_iff_suffix.2 (List.suffix_append ..)
  rw [withoutPath, if_pos hsuffix, List.length_append, Nat.add_sub_cancel, List.take_left]

/-- The end of a text that has a certain character nowhere stands behind the last place of
that character. -/
theorem suffix_of_suffix_append_cons {a : Char} {name cs : List Char} (hname : a ∉ name)
    (front : List Char) (h : name <:+ front ++ a :: cs) : name <:+ cs := by
  induction front with
  | nil =>
    rcases List.suffix_cons_iff.1 h with rfl | h
    · exact absurd List.mem_cons_self hname
    · exact h
  | cons b front ih =>
    rcases List.suffix_cons_iff.1 h with rfl | h
    · exact absurd (List.mem_append_right (b :: front) List.mem_cons_self) hname
    · exact ih h

/-- Before a slash the path is found where the authority ends like it: it has no slash
before its end, so it does not reach over the authority. -/
theorem apiPath_isSuffixOf_iff {authority : List Char} :
    apiPath.isSuffixOf (secureScheme ++ authority ++ ['/']) = true ↔ EndsLikePath authority := by
  have hpath : apiPath = "vedsdk".toList ++ ['/'] := rfl
  rw [List.isSuffixOf_iff_suffix, hpath, List.suffix_append_self_iff]
  constructor
  · exact suffix_of_suffix_append_cons (by decide) "https:/".toList
  · exact fun h => h.trans (List.suffix_append ..)

/-- What a spelling is rewritten to, but for the path. -/
theorem withSlash_spelling {authority tail : List Char} (h : isAuthority authority = true)
    (htail : tail ∈ tails) :
    withSlash (secureScheme ++ (authority ++ tail)) =
      if tail = [] ∨ tail = ['/'] then secureScheme ++ authority ++ ['/']
      else secureScheme ++ authority ++ ['/'] ++ apiPath := by
  simp only [tails, List.mem_cons, List.not_mem_nil, or_false] at htail
  rcases htail with rfl | rfl | rfl | rfl
  · rw [List.append_nil, withSlash_append (ne_nil_of_isAuthority h) (slash_notMem_of_isAuthority h)]
    rfl
  · rw [← List.append_assoc, withSlash_of_concat]
    rfl
  · have hname : "/vedsdk".toList = ['/'] ++ "vedsdk".toList := rfl
    rw [hname, ← List.append_assoc, ← List.append_assoc,
      withSlash_append (by decide) (by decide), List.append_assoc]
    rfl
  · have hpath : "/vedsdk/".toList = "/vedsdk".toList ++ ['/'] := rfl
    rw [hpath, ← List.append_assoc, ← List.append_assoc, withSlash_of_concat,
      List.append_assoc (secureScheme ++ authority), List.append_assoc (secureScheme ++ authority)]
    rfl

/-- What the spellings of an authority are rewritten to. -/
theorem complete_spelling {scheme authority tail : List Char} (hscheme : scheme ∈ schemes)
    (h : isAuthority authority = true) (htail : tail ∈ tails) :
    complete (scheme ++ (authority ++ tail)) =
      if tail = [] ∨ tail = ['/'] then withoutPath (secureScheme ++ authority ++ ['/'])
      else secureScheme ++ authority ++ ['/'] := by
  rw [complete, withScheme_spelling hscheme (slash_notMem_of_isAuthority h) htail,
    withSlash_spelling h htail]
  split
  · rfl
  · exact withoutPath_append _

/-! ## What is accepted -/

theorem authority?_append (authority : List Char) :
    authority? (secureScheme ++ authority ++ ['/']) = some authority := by
  have hscheme : secureScheme.isPrefixOf (secureScheme ++ (authority ++ ['/'])) = true :=
    List.isPrefixOf_iff_prefix.2 (List.prefix_append ..)
  rw [authority?, List.append_assoc, List.drop_left, if_pos ⟨hscheme, List.getLast?_concat⟩,
    List.dropLast_concat]

/-- A text without a slash behind the scheme has no authority. -/
theorem authority?_of_notMem {rest : List Char} (h : '/' ∉ rest) :
    authority? (secureScheme ++ rest) = none := by
  rw [authority?, List.drop_left]
  exact if_neg fun hform => h (List.mem_of_getLast? hform.2)

/-- An authority whose end is taken off leaves nothing that has one. -/
theorem authority?_withoutPath {authority : List Char} (h : '/' ∉ authority) :
    authority? (withoutPath (secureScheme ++ authority ++ ['/'])) =
      if EndsLikePath authority then none else some authority := by
  by_cases hends : EndsLikePath authority
  · obtain ⟨rest, rfl⟩ := hends
    have hform : secureScheme ++ (rest ++ "vedsdk".toList) ++ ['/'] =
        secureScheme ++ rest ++ apiPath := by
      rw [List.append_assoc, List.append_assoc, List.append_assoc]
      rfl
    rw [if_pos ⟨rest, rfl⟩, hform, withoutPath_append]
    exact authority?_of_notMem fun hmem => h (List.mem_append_left _ hmem)
  · rw [if_neg hends, withoutPath, if_neg fun hpath => hends (apiPath_isSuffixOf_iff.1 hpath),
      authority?_append]

/-- The authorities of the spellings of one authority. -/
theorem authority?_spelling {scheme authority tail : List Char} (hscheme : scheme ∈ schemes)
    (h : isAuthority authority = true) (htail : tail ∈ tails) :
    authority? (complete (scheme ++ (authority ++ tail))) =
      if EndsLikePath authority ∧ (tail = [] ∨ tail = ['/']) then none else some authority := by
  rw [complete_spelling hscheme h htail]
  by_cases hshort : tail = [] ∨ tail = ['/']
  · rw [if_pos hshort, authority?_withoutPath (slash_notMem_of_isAuthority h)]
    simp only [hshort, and_true]
  · rw [if_neg hshort, if_neg fun hrefused => hshort hrefused.2, authority?_append]

theorem ofList_secureScheme_append (authority : List Char) :
    String.ofList (secureScheme ++ authority ++ ['/']) =
      "https://" ++ String.ofList authority ++ "/" := by
  rw [String.ofList_append, String.ofList_append]
  rfl

/-- The spelling of a text without a proper authority is refused, and otherwise the base
URL is that of the authority. -/
theorem normalize_eq (url : String) :
    normalize url =
      match (authority? (complete url.toList)).filter isAuthority with
      | some authority => .ok ("https://" ++ String.ofList authority ++ "/")
      | none => .error (.configuration ("invalid base URL \"" ++ url ++ "\"")) := by
  rw [normalize]
  cases hform : authority? (complete url.toList) with
  | none => rfl
  | some authority =>
    rw [Option.filter_some, Option.any_some]
    by_cases hauthority : isAuthority authority = true
    · rw [if_pos hauthority, if_pos hauthority, eq_of_authority? hform,
        ofList_secureScheme_append]
    · rw [if_neg hauthority, if_neg hauthority]

theorem normalize_of_mem {p h e : String} (hh : isAuthority h.toList = true)
    (hp : p ∈ ["", "http://", "https://"]) (he : e ∈ ["", "/", "/vedsdk", "/vedsdk/"]) :
    normalize (p ++ h ++ e) =
      if EndsLikePath h.toList ∧ (e = "" ∨ e = "/") then
        .error (.configuration ("invalid base URL \"" ++ (p ++ h ++ e) ++ "\""))
      else .ok ("https://" ++ h ++ "/") := by
  have hscheme : p.toList ∈ schemes := by
    simp only [List.mem_cons, List.not_mem_nil, or_false] at hp
    rcases hp with rfl | rfl | rfl <;> decide
  have htail : e.toList ∈ tails ∧ ((e.toList = [] ∨ e.toList = ['/']) ↔ (e = "" ∨ e = "/")) := by
    simp only [List.mem_cons, List.not_mem_nil, or_false] at he
    rcases he with rfl | rfl | rfl | rfl <;> decide
  rw [normalize_eq, String.toList_append, String.toList_append, List.append_assoc,
    authority?_spelling hscheme hh htail.1]
  simp only [htail.2]
  by_cases hrefused : EndsLikePath h.toList ∧ (e = "" ∨ e = "/")
  · rw [if_pos hrefused, if_pos hrefused]
    rfl
  · rw [if_neg hrefused, if_neg hrefused, Option.filter_some, if_pos hh]
    simp only [String.ofList_toList]

/-- **The spellings of an authority.**  All twelve spellings of an authority mean the same
base URL, unless the authority ends in `vedsdk`: then the ones that have no path behind
it are refused, with the spelling in the message.  And a base URL means itself with the
same exception: if it was made for such an authority, then it is refused. -/
theorem normalize_spelling (url : String) :
    (∀ p h e, url = p ++ h ++ e → MatchesAuthority h.toList → p ∈ ["", "http://", "https://"] →
      e ∈ ["", "/", "/vedsdk", "/vedsdk/"] →
      normalize url =
        if EndsLikePath h.toList ∧ (e = "" ∨ e = "/") then
          .error (.configuration ("invalid base URL \"" ++ url ++ "\""))
        else .ok ("https://" ++ h ++ "/")) ∧
    ∀ baseUrl, normalize url = .ok baseUrl →
      ∃ h, MatchesAuthority h.toList ∧ baseUrl = "https://" ++ h ++ "/" ∧
        normalize baseUrl =
          if EndsLikePath h.toList then
            .error (.configuration ("invalid base URL \"" ++ baseUrl ++ "\""))
          else .ok baseUrl := by
  constructor
  · rintro p h e rfl hh hp he
    exact normalize_of_mem (isAuthority_iff.2 hh) hp he
  · intro baseUrl hurl
    obtain ⟨authority, hauthority, hform⟩ := exists_authority_of_normalize hurl
    have hbase : baseUrl = "https://" ++ String.ofList authority ++ "/" := by
      rw [← ofList_secureScheme_append, ← hform, String.ofList_toList]
    have hagain := normalize_of_mem (p := "https://") (h := String.ofList authority) (e := "/")
      (by rwa [String.toList_ofList]) (by simp) (by simp)
    rw [← hbase] at hagain
    refine ⟨String.ofList authority, ?_, hbase, by simpa using hagain⟩
    rw [String.toList_ofList]
    exact isAuthority_iff.1 hauthority

/-- With the path behind it, an authority may end like the path or not. -/
theorem normalize_withPath :
    normalize "http://tpp.example.com:443/vedsdk" = .ok "https://tpp.example.com:443/" ∧
      normalize "my-vedsdk/vedsdk" = .ok "https://my-vedsdk/" := by
  have hlong : MatchesAuthority "tpp.example.com:443".toList := isAuthority_iff.1 (by decide)
  have hshort : MatchesAuthority "my-vedsdk".toList := isAuthority_iff.1 (by decide)
  have hlong := (normalize_spelling _).1 "http://" _ "/vedsdk" rfl hlong (by simp) (by simp)
  have hshort := (normalize_spelling _).1 "" _ "/vedsdk" rfl hshort (by simp) (by simp)
  exact ⟨hlong, hshort⟩

/-- An authority of which two spellings mean different things, and a base URL that does not
mean itself. -/
theorem normalize_myVedsdk :
    MatchesAuthority "my-vedsdk".toList ∧
      normalize "my-vedsdk" = .error (.configuration "invalid base URL \"my-vedsdk\"") ∧
      normalize "my-vedsdk/vedsdk" = .ok "https://my-vedsdk/" ∧
      normalize "https://my-vedsdk/" =
        .error (.configuration "invalid base URL \"https://my-vedsdk/\"") :=
  ⟨isAuthority_iff.1 (by decide), rfl, rfl, rfl⟩

end BaseUrl
end IssuerReadiness
