import DomainGen.Loading.Source
import DomainGen.Proofs.FileTree.Length
import DomainGen.Proofs.FileTree.Reading

/-!
# What can be loaded

A model is loaded from a file that is there and is a text, or from a URL that is complete and has an
answer without an error. What cannot be loaded is an error of the loading, with a few exceptions.

* `FileEnd`, `readModelFile_iff` : **how loading a file ends**; a file that cannot even be looked for is
  the exception;
* `UrlEnd`, `urlEnd_readModelUrl` : **how loading a URL ends**; `readModelUrl_eq_ok` : which URLs can be
  loaded; `UrlFault`, `readModelUrl_fault` : a URL without parts and a refusal without an answer are the
  exceptions;
* `Address.ofString_eq_error`, `Address.exists_ofString` : which URLs have no parts.
-/

namespace DomainGen

/-! ## 1. Files -/

section Files

variable {tree : FileTree} {p : Path}

/-- How loading a file ends: it cannot be looked for, it is not there, it is a text, or it is none. -/
inductive FileEnd (tree : FileTree) (p : Path) : Except Failure Loaded → Prop where
  | unseen (h : tree.Overruns p) : FileEnd tree p (.error (.fault (.system .nameTooLong)))
  | absent (h : tree.exists? p = .ok false) : FileEnd tree p (.error (.loading (.fileNotFound p.text)))
  | loaded {text : String} (h : tree.readText p "utf-8" = .ok text) :
      FileEnd tree p (.ok ⟨p.text, text⟩)
  | unreadable {f : Fault} {cause : ReadCause} (hthere : tree.exists? p = .ok true)
      (h : tree.readText p "utf-8" = .error f) (hcause : readCause? tree p "utf-8" f = some cause) :
      FileEnd tree p (.error (.loading (.fileUnreadable p.text cause)))

/-- **How loading a file ends.** -/
theorem fileEnd_readModelFile (tree : FileTree) (p : Path) :
    FileEnd tree p (readModelFile tree p defaultEncoding) := by
  have hencoding : tree.readText p defaultEncoding = tree.readText p "utf-8" := rfl
  unfold readModelFile
  rw [hencoding]
  cases hthere : tree.exists? p with
  | error fault =>
      obtain ⟨rfl, hlong⟩ := FileTree.exists?_eq_error.mp hthere
      exact .unseen hlong
  | ok there =>
      cases there with
      | false => exact .absent hthere
      | true =>
          dsimp only
          cases htext : tree.readText p "utf-8" with
          | ok text => exact .loaded htext
          | error fault =>
              rcases FileTree.readText_utf8_eq_error hthere htext with ⟨rfl, _⟩ | rfl
              · exact .unreadable hthere htext rfl
              · exact .unreadable hthere htext rfl

/-- Loading a file ends in one way. -/
theorem FileEnd.eq {x y : Except Failure Loaded} (hx : FileEnd tree p x) (hy : FileEnd tree p y) :
    x = y := by
  have hseen : ∀ {b}, tree.exists? p = .ok b → ¬ tree.Overruns p := by
    intro b hthere hlong
    cases hthere.symm.trans (FileTree.exists?_eq_error.mpr ⟨rfl, hlong⟩)
  have htext : ∀ {text}, tree.readText p "utf-8" = .ok text → tree.exists? p = .ok true := by
    intro text h
    obtain ⟨content, hread⟩ := FileTree.read_of_readText h
    exact FileTree.exists?_of_read hread
  cases hx with
  | unseen h =>
      cases hy with
      | unseen _ => rfl
      | absent h' => exact absurd h (hseen h')
      | loaded h' => exact absurd h (hseen (htext h'))
      | unreadable h' _ _ => exact absurd h (hseen h')
  | absent h =>
      cases hy with
      | unseen h' => exact absurd h' (hseen h)
      | absent _ => rfl
      | loaded h' => cases h.symm.trans (htext h')
      | unreadable h' _ _ => cases h.symm.trans h'
  | loaded h =>
      cases hy with
      | unseen h' => exact absurd h' (hseen (htext h))
      | absent h' => cases h'.symm.trans (htext h)
      | loaded h' =>
          cases h.symm.trans h'
          rfl
      | unreadable _ h' _ => cases h.symm.trans h'
  | unreadable hthere h hcause =>
      cases hy with
      | unseen h' => exact absurd h' (hseen hthere)
      | absent h' => cases hthere.symm.trans h'
      | loaded h' => cases h.symm.trans h'
      | unreadable _ h' hcause' =>
          cases h.symm.trans h'
          cases hcause.symm.trans hcause'
          rfl

/-- A file is loaded in a way exactly if loading it ends so. -/
theorem readModelFile_iff {x : Except Failure Loaded} :
    readModelFile tree p defaultEncoding = x ↔ FileEnd tree p x :=
  ⟨fun h => h ▸ fileEnd_readModelFile tree p, fun h => (fileEnd_readModelFile tree p).eq h⟩

end Files

/-! ## 2. URLs -/

/-- A URL has no parts if the brackets around its host do not fit, or if a character of its host stands
    for one of the separators. -/
theorem Address.ofString_eq_error {url : String} {f : Fault} : Address.ofString url = .error f ↔
    f = .badValue ∧ (bracketsFit (hostPart (splitScheme (cleanUrl url)).2) = false ∨
      ∃ c ∈ hostPart (splitScheme (cleanUrl url)).2, c.toNat ∈ separatorLookalikes) := by
  unfold Address.ofString
  dsimp only
  cases hfit : bracketsFit (hostPart (splitScheme (cleanUrl url)).2) with
  | false =>
      constructor
      · intro h
        cases h
        exact ⟨rfl, .inl rfl⟩
      · rintro ⟨rfl, _⟩
        rfl
  | true =>
      rw [if_neg (by decide)]
      split
      · rename_i hsome
        obtain ⟨c, hc, hin⟩ := List.any_eq_true.mp hsome
        constructor
        · intro h
          cases h
          exact ⟨rfl, .inr ⟨c, hc, List.contains_iff_mem.mp hin⟩⟩
        · rintro ⟨rfl, _⟩
          rfl
      · rename_i hnone
        constructor
        · intro h
          cases h
        · rintro ⟨_, h | ⟨c, hc, hin⟩⟩
          · cases h
          · have hlooks : separatorLookalikes.contains c.toNat = true := List.contains_iff_mem.mpr hin
            exact absurd (List.any_eq_true.mpr ⟨c, hc, hlooks⟩) hnone

/-- The host part of a URL is made of characters of the URL. -/
theorem Address.mem_of_mem_hostPart {url : String} {c : Char}
    (h : c ∈ hostPart (splitScheme (cleanUrl url)).2) : c ∈ url.toList := by
  have hhost : ∀ s : List Char, c ∈ hostPart s → c ∈ s := by
    intro s hs
    unfold hostPart at hs
    split at hs
    · rename_i rest
      exact List.mem_cons_of_mem _ (List.mem_cons_of_mem _ ((List.takeWhile_sublist _).subset hs))
    · cases hs
  have hscheme : ∀ s : List Char, c ∈ (splitScheme s).2 → c ∈ s := by
    intro s hs
    unfold splitScheme at hs
    dsimp only at hs
    split at hs
    · rename_i rest hrest
      split at hs
      · exact List.mem_of_mem_drop (hrest ▸ List.mem_cons_of_mem ':' hs)
      · exact hs
    · exact hs
  have hclean := hscheme _ (hhost _ h)
  unfold cleanUrl at hclean
  exact (List.dropWhile_sublist _).subset (List.mem_of_mem_filter hclean)

/-- **A URL without brackets and without characters that stand for separators has parts.** -/
theorem Address.exists_ofString {url : String} (h : ∀ c ∈ url.toList, c ≠ '[' ∧ c ≠ ']' ∧
    c.toNat ∉ separatorLookalikes) : ∃ address, Address.ofString url = .ok address := by
  cases hparts : Address.ofString url with
  | ok address => exact ⟨address, rfl⟩
  | error f =>
      have hchars := fun c hc => h c (Address.mem_of_mem_hostPart hc)
      obtain ⟨_, hfit | ⟨c, hc, hin⟩⟩ := Address.ofString_eq_error.mp hparts
      · have hopen : (hostPart (splitScheme (cleanUrl url)).2).contains '[' = false := by
          rw [Bool.eq_false_iff]
          exact fun hc => (hchars _ (List.contains_iff_mem.mp hc)).1 rfl
        have hclose : (hostPart (splitScheme (cleanUrl url)).2).contains ']' = false := by
          rw [Bool.eq_false_iff]
          exact fun hc => (hchars _ (List.contains_iff_mem.mp hc)).2.1 rfl
        unfold bracketsFit at hfit
        rw [hopen, hclose] at hfit
        cases hfit
      · exact absurd hin (hchars c hc).2.2

/-- What keeps a URL from being loaded without being an error of the loading: the URL has no parts, or it
    is complete and the network refuses without an answer. -/
inductive UrlFault (web : Web) (url : String) (timeout : Data) : Fault → Prop where
  | address {f : Fault} (h : Address.ofString url = .error f) : UrlFault web url timeout f
  | refused {address : Address} (h : Address.ofString url = .ok address)
      (hcomplete : address.isComplete = true) (hweb : web ⟨url, timeout⟩ = .refused) :
      UrlFault web url timeout .missingMember

variable {web : Web} {url : String} {timeout : Data}

/-- What is asked of the network for a complete URL. -/
theorem readModelUrl_complete {address : Address} (h : Address.ofString url = .ok address)
    (hcomplete : address.isComplete = true) : (readModelUrl web url timeout).2 =
      ((web ⟨url, timeout⟩).text url).map fun text => ⟨url, text⟩ := by
  unfold readModelUrl
  rw [h]
  dsimp only
  rw [if_pos hcomplete]

/-- An answer without an error brings its text. -/
theorem Reply.text_answered {status : Nat} {body : String} (h : isErrorStatus status = false) :
    (answered status body).text url = .ok body :=
  if_neg (Bool.eq_false_iff.mp h)

/-- How loading a URL ends: it has no parts, it is not complete, it is answered with a text, there is an
    error that can be told, or there is a refusal without an answer. -/
inductive UrlEnd (web : Web) (url : String) (timeout : Data) : Except Failure Loaded → Prop where
  | apart {f : Fault} (hparts : Address.ofString url = .error f) :
      UrlEnd web url timeout (.error (.fault f))
  | incomplete {address : Address} (hparts : Address.ofString url = .ok address)
      (hcomplete : address.isComplete = false) :
      UrlEnd web url timeout (.error (.loading (.invalidUrl url)))
  | loaded {address : Address} {status : Nat} {body : String} (hparts : Address.ofString url = .ok address)
      (hcomplete : address.isComplete = true) (hreply : web ⟨url, timeout⟩ = .answered status body)
      (hstatus : isErrorStatus status = false) : UrlEnd web url timeout (.ok ⟨url, body⟩)
  | failed {address : Address} {e : LoadError} (hparts : Address.ofString url = .ok address)
      (hcomplete : address.isComplete = true)
      (hreply : (web ⟨url, timeout⟩).text url = .error (.loading e)) :
      UrlEnd web url timeout (.error (.loading e))
  | refused {address : Address} (hparts : Address.ofString url = .ok address)
      (hcomplete : address.isComplete = true) (hreply : web ⟨url, timeout⟩ = .refused) :
      UrlEnd web url timeout (.error (.fault .missingMember))

/-- **How loading a URL ends.** -/
theorem urlEnd_readModelUrl (web : Web) (url : String) (timeout : Data) :
    UrlEnd web url timeout (readModelUrl web url timeout).2 := by
  cases hparts : Address.ofString url with
  | error f =>
      unfold readModelUrl
      rw [hparts]
      exact .apart hparts
  | ok address =>
      cases hcomplete : address.isComplete with
      | false =>
          unfold readModelUrl
          rw [hparts]
          dsimp only
          rw [hcomplete]
          exact .incomplete hparts hcomplete
      | true =>
          rw [readModelUrl_complete hparts hcomplete]
          have hfailed {e : LoadError} (h : (web ⟨url, timeout⟩).text url = .error (.loading e)) :=
            UrlEnd.failed hparts hcomplete h
          cases hreply : web ⟨url, timeout⟩ with
          | answered status body =>
              rw [hreply] at hfailed
              cases hstatus : isErrorStatus status with
              | false =>
                  rw [Reply.text_answered hstatus]
                  exact .loaded hparts hcomplete hreply hstatus
              | true =>
                  have htext : (Reply.answered status body).text url =
                      .error (.loading (.http status url)) :=
                    if_pos hstatus
                  rw [htext]
                  exact hfailed htext
          | refused => exact .refused hparts hcomplete hreply
          | timedOut => exact hfailed (congrArg (Reply.text · url) hreply)
          | unreachable => exact hfailed (congrArg (Reply.text · url) hreply)
          | broken => exact hfailed (congrArg (Reply.text · url) hreply)

/-- **A URL is loaded exactly if it is complete and answered without an error.** -/
theorem readModelUrl_eq_ok {d : Loaded} : (readModelUrl web url timeout).2 = .ok d ↔
    ∃ address status body, Address.ofString url = .ok address ∧ address.isComplete = true ∧
      web ⟨url, timeout⟩ = .answered status body ∧ isErrorStatus status = false ∧ d = ⟨url, body⟩ := by
  constructor
  · intro h
    have hend := urlEnd_readModelUrl web url timeout
    rw [h] at hend
    cases hend with
    | loaded hparts hcomplete hreply hstatus =>
        exact ⟨_, _, _, hparts, hcomplete, hreply, hstatus, rfl⟩
  · rintro ⟨address, status, body, hparts, hcomplete, hreply, hstatus, rfl⟩
    rw [readModelUrl_complete hparts hcomplete, hreply, Reply.text_answered hstatus]
    rfl

/-- **What cannot be loaded is an error of the loading** or one of those faults. -/
theorem readModelUrl_failsAs : FailsAs (fun f => (∃ e, f = .loading e) ∨
    ∃ x, f = .fault x ∧ UrlFault web url timeout x) (readModelUrl web url timeout).2 := by
  intro f h
  have hend := urlEnd_readModelUrl web url timeout
  rw [h] at hend
  cases hend with
  | incomplete _ _ => exact .inl ⟨_, rfl⟩
  | failed _ _ _ => exact .inl ⟨_, rfl⟩
  | apart hparts => exact .inr ⟨_, rfl, .address hparts⟩
  | refused hparts hcomplete hreply => exact .inr ⟨_, rfl, .refused hparts hcomplete hreply⟩

/-- Each of those faults keeps a URL from being loaded. -/
theorem readModelUrl_fault {x : Fault} : (readModelUrl web url timeout).2 = .error (.fault x) ↔
    UrlFault web url timeout x := by
  constructor
  · intro h
    rcases readModelUrl_failsAs _ h with ⟨_, h⟩ | ⟨_, h, hfault⟩
    · cases h
    · cases h
      exact hfault
  · intro h
    cases h with
    | address h =>
        unfold readModelUrl
        rw [h]
    | refused hparts hcomplete hreply =>
        rw [readModelUrl_complete hparts hcomplete, hreply]
        rfl

end DomainGen
