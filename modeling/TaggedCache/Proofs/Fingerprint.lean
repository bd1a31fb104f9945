import TaggedCache.Proofs.JsonUnique
import TaggedCache.Query.Fingerprint

/-!
# What a query key says

The hashed text can be taken apart again (`encoding_inj`), and so can everything that is wrapped
around its digest (`eq_of_key_eq`). Two queries share a key only when their digests collide or their
SQL and the texts of their parameters are the same.
-/

namespace TaggedCache

namespace Query

variable {sql other k : String} {params more : List Param} {cs ds : List Char}

/-- The canonical text of a list of parameters. -/
def paramText (params : List Param) : Except String (List Char) := Param.chars (.list params)

theorem chars_query (sql : String) (params : List Param) :
    Param.chars (.list [.text scheme, .text sql, .list params]) = (do
      let ps ← paramText params
      .ok (Param.bracketed [Json.quote scheme, Json.quote sql, ps])) := by
  unfold paramText
  rw [Param.chars, Param.itemChars, Param.chars, Param.itemChars, Param.chars, Param.itemChars,
    Param.itemChars]
  cases Param.chars (.list params) <;> rfl

/-- The hashed text is a list of the scheme, the SQL and the parameters. -/
theorem encoding_eq (h : encoding sql params = .ok cs) : ∃ ps, paramText params = .ok ps ∧
    cs = '[' :: (Json.quote scheme ++ ',' :: (Json.quote sql ++ ',' :: (ps ++ [']']))) := by
  unfold encoding at h
  split at h
  · cases h
  · rw [chars_query] at h
    cases hp : paramText params with
    | error reason =>
      rw [hp] at h
      cases h
    | ok ps =>
      rw [hp] at h
      obtain rfl := Except.ok.inj h
      exact ⟨ps, rfl, by simp [Param.bracketed, Param.separated]⟩

/-- The hashed text determines the SQL and the text of the parameters. -/
theorem encoding_inj (h : encoding sql params = .ok cs) (h' : encoding other more = .ok cs) :
    sql = other ∧ ∃ ps, paramText params = .ok ps ∧ paramText more = .ok ps := by
  obtain ⟨ps, hp, rfl⟩ := encoding_eq h
  obtain ⟨qs, hq, he⟩ := encoding_eq h'
  obtain ⟨-, hrest⟩ := Json.quote_append_inj (List.cons.inj he).2
  obtain ⟨hsql, hrest⟩ := Json.quote_append_inj (List.cons.inj hrest).2
  have hparams : ps = qs := List.append_cancel_right (List.cons.inj hrest).2
  exact ⟨hsql, ps, hp, hparams ▸ hq⟩

/-- The digest under which a text is filed. -/
def digest (cs : List Char) : Bytes := Sha256.digest (Bytes.ofText (String.ofList cs))

theorem key_eq (h : key sql params = .ok k) :
    ∃ cs, encoding sql params = .ok cs ∧ k = "query:" ++ Bytes.hex (digest cs) := by
  cases he : encoding sql params with
  | error fault =>
    simp only [key, fingerprint, he] at h
    cases h
  | ok cs =>
    simp only [key, fingerprint, he] at h
    exact ⟨cs, rfl, (Except.ok.inj h).symm⟩

/-- Parameters without a flaw that have a text give a key. -/
theorem exists_key {ps : List Char} (sql : String) (hflaw : Param.itemFlaw? params = none)
    (hp : paramText params = .ok ps) : ∃ k, key sql params = .ok k := by
  simp only [key, fingerprint, encoding, hflaw, chars_query, hp]
  exact ⟨_, rfl⟩

/-- Two texts do not share a digest unless they are the same. -/
def Separate (cs ds : List Char) : Prop := digest cs = digest ds → cs = ds

/-- Two queries with one key have the same SQL and the same parameters, digests aside. -/
theorem eq_of_key_eq (h : key sql params = .ok k) (h' : key other more = .ok k)
    (hsep : ∀ cs ds, encoding sql params = .ok cs → encoding other more = .ok ds → Separate cs ds) :
    sql = other ∧ ∃ ps, paramText params = .ok ps ∧ paramText more = .ok ps := by
  obtain ⟨cs, hcs, hk⟩ := key_eq h
  obtain ⟨ds, hds, hk'⟩ := key_eq h'
  have hhex : Bytes.hex (digest cs) = Bytes.hex (digest ds) :=
    (String.append_right_inj "query:").mp (hk ▸ hk')
  obtain rfl := hsep cs ds hcs hds (Bytes.hex_injective hhex)
  exact encoding_inj hcs hds

end Query
end TaggedCache
