/-!
The two notations in which configuration documents are read. Both are those of the parsers that the
program relies on: the tolerant one reads its configuration, the strict one the files of projects.
The modules of this directory assume that these parsers accept, read and refuse documents as is said
here. They set no limit to how deep values may be nested; the parsers give up on documents that are
nested very deep, and these are left out.
-/

namespace ColorMarkup.Toml

/-- The strict notation is version 1.0 of the format. The tolerant one is version 1.1, which adds
inline tables on several lines, times without seconds and shorter escapes; it also takes liberties
of its own. -/
inductive Dialect where
  | tolerant
  | strict
deriving DecidableEq

end ColorMarkup.Toml
