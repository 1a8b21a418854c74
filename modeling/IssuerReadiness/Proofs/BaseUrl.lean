import IssuerReadiness.BaseUrl

/-!
# The form of a base URL

A base URL that was accepted is `https://`, an authority and a slash, and an authority
has letters, digits, points, hyphens and colons only.  So nothing in it ends a text
early, and what is added to it stands behind its slash.

* `exists_authority_of_normalize`: the form of a base URL.
* `notMem_of_normalize`: characters that no base URL has.
-/

namespace IssuerReadiness
namespace BaseUrl

/-- The characters of an authority. -/
theorem char_of_isAuthority {cs : List Char} (h : isAuthority cs = true) {c : Char}
    (hc : c ∈ cs) : isHostChar c = true ∨ isPortChar c = true := by
  obtain ⟨hhost, hport⟩ := Bool.and_eq_true_iff.1 h
  rw [← List.takeWhile_append_dropWhile (p := isHostChar) (l := cs), List.mem_append] at hc
  rcases hc with hc | hc
  · exact Or.inl (List.all_eq_true.1 List.all_takeWhile c hc)
  · exact Or.inr (List.all_eq_true.1 hport c hc)

/-- The authority of a text is what stands between the scheme and the last slash. -/
theorem eq_of_authority? {cs authority : List Char} (h : authority? cs = some authority) :
    cs = secureScheme ++ authority ++ ['/'] := by
  unfold authority? at h
  dsimp only at h
  split at h
  · next hform =>
    obtain ⟨hscheme, hslash⟩ := hform
    obtain ⟨rest, rfl⟩ := List.isPrefixOf_iff_prefix.1 hscheme
    rw [List.drop_left] at h hslash
    obtain ⟨host, rfl⟩ := List.getLast?_eq_some_iff.1 hslash
    rw [← Option.some.inj h, List.dropLast_concat, List.append_assoc]
  · cases h

/-- The form of a base URL. -/
theorem exists_authority_of_normalize {url baseUrl : String} (h : normalize url = .ok baseUrl) :
    ∃ authority, isAuthority authority = true ∧
      baseUrl.toList = secureScheme ++ authority ++ ['/'] := by
  unfold normalize at h
  dsimp only at h
  split at h
  · next hany =>
    obtain ⟨authority, hauthority, hchars⟩ := (Option.any_eq_true _ _).1 hany
    refine ⟨authority, hchars, ?_⟩
    rw [← Except.ok.inj h, String.toList_ofList]
    exact eq_of_authority? hauthority
  · cases h

/-- A base URL starts with the secure scheme. -/
theorem secureScheme_isPrefix_of_normalize {url baseUrl : String}
    (h : normalize url = .ok baseUrl) : "https://".toList <+: baseUrl.toList := by
  obtain ⟨authority, -, hform⟩ := exists_authority_of_normalize h
  rw [hform, List.append_assoc]
  exact List.prefix_append _ _

/-- A character that is neither in the scheme nor in any authority is in no base URL. -/
theorem notMem_of_normalize {url baseUrl : String} (h : normalize url = .ok baseUrl) {c : Char}
    (hscheme : c ∉ "https://".toList) (hhost : isHostChar c = false)
    (hport : isPortChar c = false) : c ∉ baseUrl.toList := by
  obtain ⟨authority, hchars, hform⟩ := exists_authority_of_normalize h
  intro hc
  rw [hform, List.mem_append, List.mem_append] at hc
  rcases hc with (hc | hc) | hc
  · exact hscheme hc
  · rcases char_of_isAuthority hchars hc with hchar | hchar
    · rw [hhost] at hchar
      cases hchar
    · rw [hport] at hchar
      cases hchar
  · rw [List.mem_singleton.1 hc] at hscheme
    exact hscheme (by decide)

end BaseUrl
end IssuerReadiness
