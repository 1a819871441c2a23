import Polyglot.Text.Windows
import Polyglot.Decimal.Whole

/-!
# Structural features

Eight counts that describe the shape of a snippet: how many of the keywords of
four languages occur in it, and how much punctuation and indentation it has.
-/

namespace Polyglot
namespace Structure

def pythonKeywords : List String :=
  ["def", "import", "class", "for", "while", "if", "elif", "else"]

def javascriptKeywords : List String :=
  ["function", "const", "let", "var", "console.log", "=>"]

def javaKeywords : List String :=
  ["public", "private", "static", "void", "class", "System.out"]

def cppKeywords : List String :=
  ["#include", "std::", "cout", "cin", "namespace"]

def keywordHits (keywords : List String) (code : List Char) : Nat :=
  keywords.countP fun keyword => Text.contains keyword.toList code

def indentation : List Char := ['\n', ' ', ' ', ' ', ' ']

structure Counts where
  python : Nat
  javascript : Nat
  java : Nat
  cpp : Nat
  semicolons : Nat
  braces : Nat
  indented : Nat
  hashes : Nat
  deriving DecidableEq

namespace Counts

def ofCode (code : List Char) : Counts where
  python := keywordHits pythonKeywords code
  javascript := keywordHits javascriptKeywords code
  java := keywordHits javaKeywords code
  cpp := keywordHits cppKeywords code
  semicolons := code.count ';'
  braces := code.count '\x7b' + code.count '\x7d'
  indented := Text.occurrences indentation code
  hashes := code.count '#'

def toList (c : Counts) : List Nat :=
  [c.python, c.javascript, c.java, c.cpp, c.semicolons, c.braces, c.indented, c.hashes]

end Counts

def names : List String :=
  ["python_keywords", "js_keywords", "java_keywords", "cpp_keywords", "semicolons",
    "curly_braces", "indentation_spaces", "hash_symbols"]

def features (code : String) : List Float32 :=
  (Counts.ofCode code.toList).toList.map toSingle

end Structure
end Polyglot
