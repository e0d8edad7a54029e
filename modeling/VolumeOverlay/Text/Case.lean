/-!
# Lower case

Names of categories and backends are recognised in upper and lower case.

## Main definitions

* `asciiLower s`: a text with its ASCII letters in lower case
-/

namespace VolumeOverlay.Text

/-- A text with its ASCII letters in lower case. Among all letters only these and the Kelvin sign
have a lower case in ASCII; equality with an ASCII name without `k` is therefore the same whether
all letters are lowered or these. -/
def asciiLower (s : String) : String :=
  .ofList (s.toList.map Char.toLower)

end VolumeOverlay.Text
