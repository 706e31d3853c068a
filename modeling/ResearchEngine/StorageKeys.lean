import ResearchEngine.InterchangeableStores

/-! The keys of `build_key` and their places on the local disk: no two documents share one, and
none lies outside the root or inside another. -/
namespace ResearchEngine
namespace BlobStorage

open Answering PyText

/-- An id that a key may be made of: a name without a separator or a dot. -/
structure CleanId (id : String) : Prop where
  nonempty : id ≠ ""
  noSlash : '/' ∉ id.toList
  noBackslash : '\\' ∉ id.toList
  noDot : '.' ∉ id.toList

theorem CleanId.plain {id : String} (h : CleanId id) : Plain id where
  nonempty := h.nonempty
  noDot he := h.noDot (by rw [he]; decide)
  noDotDot he := h.noDot (by rw [he]; decide)
  noSlash := h.noSlash

/-- `LocalStorage._p`, which looks the path up: a name with a NUL is refused by the system. -/
def localPath (root : Path) (key : String) : Except String Path :=
  if Char.ofNat 0 ∈ key.toList then .error "embedded null byte" else pathOf root key

section Keys

variable [PyText]

/-- The extension that `build_key` keeps. -/
def safeExt (filename : String) : List Char :=
  ((pathSuffix (String.ofList (filename.toList.map
    fun c => if c = '\\' then '/' else c))).toList.take 12).filter fun c => PyText.isAlnum c ∨ c = '.'

theorem buildKey_eq {orgId orderId documentId filename key : String}
    (h : EvidenceUpload.buildKey orgId orderId documentId filename = .ok key) :
    key = orgId ++ "/" ++ orderId ++ "/" ++ (documentId ++ String.ofList (safeExt filename)) := by
  unfold EvidenceUpload.buildKey at h
  split at h
  · cases h
  · rw [← Except.ok.inj h, safeExt]
    simp only [String.append_assoc]

omit [PyText] in
theorem pathSuffix_dot (path : String) :
    (pathSuffix path).toList = [] ∨ ∃ rest, (pathSuffix path).toList = '.' :: rest := by
  unfold pathSuffix
  simp only
  split
  · exact Or.inl rfl
  · exact Or.inr ⟨_, String.toList_ofList⟩

/-- An extension is empty or starts with a dot. -/
theorem safeExt_dot (filename : String) :
    safeExt filename = [] ∨ ∃ rest, safeExt filename = '.' :: rest := by
  unfold safeExt
  rcases pathSuffix_dot (String.ofList (filename.toList.map
    fun c => if c = '\\' then '/' else c)) with h | ⟨rest, h⟩
  · rw [h]
    exact Or.inl rfl
  · rw [h, List.take_succ_cons, List.filter_cons_of_pos (by simp)]
    exact Or.inr ⟨_, rfl⟩

theorem safeExt_noSlash (filename : String) : '/' ∉ safeExt filename := fun hmem =>
  pathSuffix_noSlash (List.mem_of_mem_take (List.mem_of_mem_filter hmem))

omit [PyText] in
/-- A name is cut in one way into an id without dots and an extension. -/
theorem id_ext_inj {a b : List Char} {e e' : List Char} (ha : '.' ∉ a) (hb : '.' ∉ b)
    (he : e = [] ∨ ∃ rest, e = '.' :: rest) (he' : e' = [] ∨ ∃ rest, e' = '.' :: rest)
    (h : a ++ e = b ++ e') : a = b ∧ e = e' := by
  have hcut {a e : List Char} (ha : '.' ∉ a) (he : e = [] ∨ ∃ rest, e = '.' :: rest) :
      (a ++ e).takeWhile (· ≠ '.') = a := by
    have hall : ∀ c ∈ a, decide (c ≠ '.') = true := fun c hc =>
      decide_eq_true fun hdot => ha (hdot ▸ hc)
    rw [List.takeWhile_append_of_pos hall]
    rcases he with rfl | ⟨rest, rfl⟩
    · simp
    · simp
  have hab : a = b := by rw [← hcut ha he, h, hcut hb he']
  subst hab
  exact ⟨rfl, List.append_cancel_left h⟩

/-- The key of a document of clean ids. -/
structure KeyOf (orgId orderId documentId filename key : String) : Prop where
  org : CleanId orgId
  order : CleanId orderId
  document : CleanId documentId
  built : EvidenceUpload.buildKey orgId orderId documentId filename = .ok key

variable {orgId orderId documentId filename key orgId' orderId' documentId' filename' key' : String}

theorem KeyOf.names (h : KeyOf orgId orderId documentId filename key) :
    splitOn '/' key = [orgId, orderId, documentId ++ String.ofList (safeExt filename)] ∧
      Plain (documentId ++ String.ofList (safeExt filename)) := by
  have hname := h.document.plain.append (safeExt_noSlash filename)
  rw [buildKey_eq h.built]
  exact ⟨splitOn_three h.org.plain h.order.plain hname, hname⟩

theorem KeyOf.eq_iff (h : KeyOf orgId orderId documentId filename key)
    (h' : KeyOf orgId' orderId' documentId' filename' key') :
    key = key' ↔ orgId = orgId' ∧ orderId = orderId' ∧ documentId = documentId' ∧
      safeExt filename = safeExt filename' := by
  constructor
  · rintro rfl
    have hnames := h.names.1.symm.trans h'.names.1
    obtain ⟨horg, hrest⟩ := List.cons.inj hnames
    obtain ⟨horder, hrest⟩ := List.cons.inj hrest
    have hname := congrArg String.toList (List.cons.inj hrest).1
    rw [String.toList_append, String.toList_append, String.toList_ofList, String.toList_ofList] at hname
    obtain ⟨hid, hext⟩ := id_ext_inj h.document.noDot h'.document.noDot (safeExt_dot filename)
      (safeExt_dot filename') hname
    exact ⟨horg, horder, String.toList_injective hid, hext⟩
  · rintro ⟨rfl, rfl, rfl, hext⟩
    rw [buildKey_eq h.built, buildKey_eq h'.built, hext]

variable {root : Path}

/-- A key without a NUL has its place three names below the root. -/
theorem KeyOf.localPath (h : KeyOf orgId orderId documentId filename key)
    (hnul : Char.ofNat 0 ∉ key.toList) :
    localPath root key = .ok (root ++ splitOn '/' key) := by
  have hplain : ∀ name ∈ splitOn '/' key, Plain name := by
    simp [h.names.1, h.org.plain, h.order.plain, h.names.2]
  rw [BlobStorage.localPath, if_neg hnul]
  simp [pathOf, resolvePath_plain hplain]

/-- A key that has a place has it three names below the root. -/
theorem KeyOf.of_localPath (h : KeyOf orgId orderId documentId filename key) {p : Path}
    (hp : BlobStorage.localPath root key = .ok p) : p = root ++ splitOn '/' key := by
  by_cases hnul : Char.ofNat 0 ∈ key.toList
  · rw [BlobStorage.localPath, if_pos hnul] at hp
    cases hp
  · exact (Except.ok.inj ((h.localPath hnul).symm.trans hp)).symm

/-- Keys of clean ids are equal exactly when their ids and extensions are, those of two
organisations have no place in common, and the place of a key without a NUL lies below the root,
not inside the place of another key. -/
theorem storageKeys_apart (root : Path) (h : KeyOf orgId orderId documentId filename key)
    (h' : KeyOf orgId' orderId' documentId' filename' key') :
    (key = key' ↔ orgId = orgId' ∧ orderId = orderId' ∧ documentId = documentId' ∧
        safeExt filename = safeExt filename') ∧
      (∀ p, localPath root key = .ok p → localPath root key' = .ok p → orgId = orgId') ∧
      (Char.ofNat 0 ∉ key.toList → ∃ p, localPath root key = .ok p ∧ root <+: p ∧ p ≠ root ∧
        ∀ p', localPath root key' = .ok p' → key ≠ key' → ¬ p <+: p' ∧ ¬ p' <+: p) := by
  have hlen : (splitOn '/' key).length = 3 := by rw [h.names.1]; rfl
  have hlen' : (splitOn '/' key').length = 3 := by rw [h'.names.1]; rfl
  refine ⟨h.eq_iff h', fun p hp hp' => ?_, fun hnul => ?_⟩
  · have hsame := (h.of_localPath hp).symm.trans (h'.of_localPath hp')
    exact ((h.eq_iff h').mp (splitOn_inj (List.append_cancel_left hsame))).1
  · refine ⟨_, h.localPath hnul, List.prefix_append _ _, ?_, fun p' hp' hne => ?_⟩
    · intro heq
      have hlong := congrArg List.length heq
      rw [List.length_append, hlen] at hlong
      omega
    · obtain rfl := h'.of_localPath hp'
      have hlong : (root ++ splitOn '/' key).length = (root ++ splitOn '/' key').length := by
        rw [List.length_append, List.length_append, hlen, hlen']
      have hpaths : root ++ splitOn '/' key ≠ root ++ splitOn '/' key' := fun heq =>
        hne (splitOn_inj (List.append_cancel_left heq))
      exact ⟨fun hpre => hpaths (hpre.eq_of_length hlong),
        fun hpre => hpaths (hpre.eq_of_length hlong.symm).symm⟩

end Keys

section Concrete

open scoped PyText.Ascii

theorem cleanId_org : CleanId "org-1" := ⟨by decide, by decide, by decide, by decide⟩
theorem cleanId_order : CleanId "order-7" := ⟨by decide, by decide, by decide, by decide⟩

theorem storageKeys_apart_deeds :
    ("org-1/order-7/DEED.pdf" = "org-1/order-7/DEED" ↔ "org-1" = "org-1" ∧ "order-7" = "order-7" ∧
        "DEED" = "DEED" ∧ safeExt "scan.pdf" = safeExt "scan") ∧
      ∃ p, localPath ["srv", "evidence"] "org-1/order-7/DEED.pdf" = .ok p ∧
        p ≠ ["srv", "evidence"] := by
  have hid : CleanId "DEED" := ⟨by decide, by decide, by decide, by decide⟩
  have hscan : KeyOf "org-1" "order-7" "DEED" "scan.pdf" "org-1/order-7/DEED.pdf" :=
    ⟨cleanId_org, cleanId_order, hid, by decide +kernel⟩
  have hbare : KeyOf "org-1" "order-7" "DEED" "scan" "org-1/order-7/DEED" :=
    ⟨cleanId_org, cleanId_order, hid, by decide +kernel⟩
  obtain ⟨hkeys, -, hplace⟩ := storageKeys_apart ["srv", "evidence"] hscan hbare
  obtain ⟨p, hp, -, hne, -⟩ := hplace (by decide)
  exact ⟨hkeys, p, hp, hne⟩

/-- The system does not look up a name with a NUL. -/
theorem nul_not_resolved :
    CleanId (String.ofList [Char.ofNat 0]) ∧
      (EvidenceUpload.buildKey "org-1" "order-7" (String.ofList [Char.ofNat 0]) "scan.pdf").toOption.map
        (fun key => (localPath ["srv", "evidence"] key).toOption) = some none :=
  ⟨⟨by decide +kernel, by decide +kernel, by decide +kernel, by decide +kernel⟩, by decide +kernel⟩

end Concrete

end BlobStorage
end ResearchEngine
