import Polyglot.Labels

/-!
# Corpora

Labelled snippets of code in their order, and a small corpus of four languages
that the program trains on when nothing else is given.
-/

namespace Polyglot

structure Sample where
  code : String
  label : String
  deriving DecidableEq

structure Corpus where
  samples : List Sample := []
  deriving DecidableEq

namespace Corpus

def ofPairs (pairs : List (String × String)) : Corpus :=
  ⟨pairs.map fun p => ⟨p.1, p.2⟩⟩

def push (corpus : Corpus) (sample : Sample) : Corpus :=
  ⟨corpus.samples ++ [sample]⟩

def append (corpus other : Corpus) : Corpus :=
  ⟨corpus.samples ++ other.samples⟩

def size (corpus : Corpus) : Nat :=
  corpus.samples.length

def codes (corpus : Corpus) : List String :=
  corpus.samples.map Sample.code

def labels (corpus : Corpus) : List String :=
  corpus.samples.map Sample.label

def distribution (corpus : Corpus) : List (String × Nat) :=
  Labels.distribution corpus.labels

def demo : Corpus :=
  ⟨[
    ⟨"def calculate_sum(a, b):\n    return a + b",
      "python"⟩,
    ⟨"import numpy as np\nx = np.array([1, 2, 3])",
      "python"⟩,
    ⟨"for i in range(10):\n    print(i)",
      "python"⟩,
    ⟨"class MyClass:\n    def __init__(self):\n        pass",
      "python"⟩,
    ⟨"if x > 0:\n    print('positive')\nelse:\n    print('negative')",
      "python"⟩,
    ⟨"function add(a, b) \x7b\n    return a + b;\n\x7d",
      "javascript"⟩,
    ⟨"const arr = [1, 2, 3];\narr.map(x => x * 2);",
      "javascript"⟩,
    ⟨"for (let i = 0; i < 10; i++) \x7b\n    console.log(i);\n\x7d",
      "javascript"⟩,
    ⟨"class MyClass \x7b\n    constructor() \x7b\n    \x7d\n\x7d",
      "javascript"⟩,
    ⟨"if (x > 0) \x7b\n    console.log('positive');\n\x7d",
      "javascript"⟩,
    ⟨"public class Main \x7b\n    public static void main(String[] args) \x7b\n    \x7d\n\x7d",
      "java"⟩,
    ⟨"int[] arr = \x7b1, 2, 3\x7d;\nfor (int i : arr) \x7b\n    System.out.println(i);\n\x7d",
      "java"⟩,
    ⟨"public int add(int a, int b) \x7b\n    return a + b;\n\x7d",
      "java"⟩,
    ⟨"if (x > 0) \x7b\n    System.out.println(\"positive\");\n\x7d",
      "java"⟩,
    ⟨"#include <iostream>\nint main() \x7b\n    return 0;\n\x7d",
      "cpp"⟩,
    ⟨"std::vector<int> v = \x7b1, 2, 3\x7d;",
      "cpp"⟩,
    ⟨"for (int i = 0; i < 10; i++) \x7b\n    std::cout << i;\n\x7d",
      "cpp"⟩,
    ⟨"class MyClass \x7b\npublic:\n    MyClass() \x7b\x7d\n\x7d;",
      "cpp"⟩
  ]⟩

end Corpus
end Polyglot
