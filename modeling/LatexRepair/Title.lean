import LatexRepair.Unicode.LowerCase

/-!
# Titles across languages

The words of section titles in English with their renderings in Chinese. Two titles are
similar when they are the same but for the case of ASCII letters, or when one holds an
English word, in letters of any case, and the other one of its renderings.
-/

namespace LatexRepair

/-- A word of titles and its renderings. -/
structure TitleWord where
  english : Text
  renderings : List Text
deriving DecidableEq, Inhabited

namespace TitleWord

/-- All words of titles. -/
def all : List TitleWord :=
  [("introduction", ["引言", "介绍", "简介"]), ("background", ["背景", "研究背景"]),
    ("related work", ["相关工作", "相关研究"]), ("method", ["方法", "方法论"]),
    ("methodology", ["方法论", "研究方法"]), ("experiment", ["实验", "实验设置"]),
    ("experiments", ["实验", "实验结果"]), ("results", ["结果", "实验结果"]),
    ("discussion", ["讨论", "分析讨论"]), ("conclusion", ["结论", "总结"]),
    ("conclusions", ["结论", "总结"]), ("abstract", ["摘要"]), ("references", ["参考文献", "引用"]),
    ("acknowledgments", ["致谢", "鸣谢"]), ("acknowledgements", ["致谢", "鸣谢"]),
    ("appendix", ["附录"]), ("evaluation", ["评估", "评价"]), ("analysis", ["分析"]),
    ("implementation", ["实现", "实施"]), ("limitations", ["局限性", "限制"]),
    ("future work", ["未来工作", "展望"])].map
    fun (english, renderings) => ⟨english.toList, renderings.map String.toList⟩

/-- The renderings of an English word. -/
def renderings? (word : Text) : Option (List Text) :=
  (all.find? (·.english = word)).map (·.renderings)

/-- One title holds the word, in letters of any case, and the other one of its renderings. -/
def links (w : TitleWord) (a b : Text) : Bool :=
  Text.contains w.english (Text.toLower a) && w.renderings.any (Text.contains · b)

end TitleWord

/-- The texts are the same but for the case of ASCII letters. -/
def equalIgnoringCase (a b : Text) : Bool :=
  a.map Char.toLower = b.map Char.toLower

/-- The titles may name the same section. -/
def titlesSimilar (a b : Text) : Bool :=
  let a := Text.trim a
  let b := Text.trim b
  equalIgnoringCase a b || TitleWord.all.any fun w => w.links a b || w.links b a

end LatexRepair
