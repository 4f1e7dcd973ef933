import BlobStorage.Url.Idna.Mapping
import BlobStorage.Url.Idna.Normalization

/-!
# Labels of domain names

A label must not look like an encoded one or start with a mark; the two invisible joiners may stand
only where they change how letters are joined; and a label with letters that run from right to left
keeps to one direction.  The first joiner of a label settles the question: a label in which it may
stand is not looked at any further.  Marks and directions are those of version 13.0 of the Unicode
Character Database, so a character that is younger is no mark and has no direction.
-/

namespace BlobStorage.Idna

def markLines : List String :=
  ["300N 71M 112N 8M 106N 2dM 1N 1M 1N 2M 1N 2M 1N 9M 40N bM 30N 15M 10N 1M 65N 8M 1N 6M 2N 2M 1N",
    "4M 23N 1M 1eN 1dM 59N bM 3aN 9M 9N 1M 18N 4M 1N 9M 1N 3M 1N 7M 29N 5M 75N 31M 36N 3M 1N 12M",
    "1N fM 2N 2M 1dN 4M 37N 1M 1N 10M 9N 9M 2N 4M 18N 7M 37N 20M 14N 2M 3N 1M bN 4M 37N 1M 1N 12M",
    "12N 4M 14N bM 37N 1M 1N 21M 3N 4M 1cN 1M 3bN 12M 7N fM 1aN 5M 39N 1aM aN 4M 1bN 3M 38N 1M 1N",
    "1fM 5N 4M 1aN 4M 37N 2M 1N 10M 9N 1M aN 4M 1bN 4M 45N 1cM cN 2M 3dN 1M 2N bM 8N 8M 62N 1M 2N",
    "9M bN 6M 4aN 2M 1bN 1M 1N 1M 1N 1M 4N 2M 31N 14M 1N 2M 5N 31M 8N 1M 64N 14M 17N 4M 4N 3M 1N",
    "3M 2N 7M 3N 4M dN cM 1N 1M aN 4M 2bfN 3M 3b2N 3M 1dN 3M 1dN eM 12N eM 36N 1eM 9N 3M a5N 2M",
    "22N 1M 76N 20M d7N 7M 37N 2bM 30N 11M 3fN 5M 2fN 11M 26N 9M cN 3M 1eN dM 38N 16M 28N 17M 95N",
    "3M 1N 15M 4N 1M 6N 1M 2N 3M c6N 3aM 1N 6M 2cfN 34M bebN 4M 8cN 1M 60N 20M 22aN 6M 69N 4M",
    "75d2N 4M 1N aM 20N 2M 50N 2M 110N 1M 3N 1M 4N 1M 17N 5M 4N 4M 50N 2M 32N 1aM 12N 12M dN 1M",
    "26N 8M 19N 18M 21N 4M 2fN eM 24N 1M 43N 17M 3N 1M 8N 4M 2bN 3M 32N 1M 1N 3M 2N 2M 5N 2M 1N 1M",
    "29N 5M 5N cM e2N 8M 1N 4M 4f2eN 94M 26eN 25M 3b8N 83M 60N 1M 95N aM 681N fM 28N 8M a5N 6M",
    "239N cM 17bN 2M 99N bM afN 3M 35N fM 38N 4M 2dN bM 45N 3M 24N fM fN 2M 2cN 1M cN 3M 30N eM 8N",
    "4M 1N 2M 5cN cM 6N 1M a0N 11M 10N 5M 36N 2M 1N 12M 7N 6M 5N 9eM 35N 12M 17N 1M 51N 14M ebN",
    "12M 1bN 24M 30N 11M 6aN dM 65N 13M fcN fM f5N fM 1N 1M 1N 2M 8dN 10M 3N 1cM 1N aM 28N 7M 1N",
    "4M 8N 9M 1N bM 2eN 10M 195N 11M 52N 6eM 31N 15M 1N 9M 3aN eM 15bN 4M 4bf9N 5M 3bN 7M 418N 1M",
    "1N 42M 51N 1cM 4c9dN 2M 14c6N 5M 3N 16M 2N 7M 1eN 4M 94N 3M 7bbN 37M 4N 32M 8N 1M eN 1M 16N",
    "465M 100N 8fM a1N 7M 1b5N 4M 5e0N 52M 22N 7M f16b5N"]

/-- How letters are joined to their neighbours: to the left (`L`), to the right (`R`), to both
(`D`), or not at all. -/
def joiningLines : List String :=
  ["620U 1D 1U 4R 1D 1R 1D 1R 5D 4R dD 1U 7D 1R 2D 23U 2D 1U 3R 1U 3R 10D 12R 26D 1R 2D 9R 1D 1R",
    "1D 1R 2D 2R 1U 1R 18U 2R aU 3D 2U 1D 10U 1R 1U 3D 5R 4D 1R 9D 1R 1D 1R 1D 1R 2D 1R 1dU 1R bD",
    "3R bD e9U 4D 1R 1D 4aU 1D 1U 8D 3R f5aU 1D 18U 58D fU 22D 1U 1D 8f95U 32D 1L 10578dU"]

/-- Directions: from left to right (`L`), from right to left (`R`, and `A` for Arabic letters),
Arabic (`N`) and European numbers (`E`) with their separators and signs (`S`, `C`, `T`), marks
(`M`), neutral characters (`O`, `B`), and others. -/
def directionLines : List String :=
  ["9B 5X eB 5X 2O 3T 5O 1S 1C 1S 2C aE 1C 26O 1aL 4O 22B 1O 4T aO 6T 29O 18L 1O 1c1L 2O 7L eO 2L",
    "1cO 1L 11O 71M 4L 2O 7fL 2O 8bL 8M ffL 5O 2T 2dM 1R 1M 1R 2M 1R 2M 1R 9M 36R 2O 1A 2T 1A 1C",
    "1A 2O bM 2A 1X 2dA 15M aN 1T 2N 3A 1M 65A 8M 1O 6M 2A 2M 1O 4M 2A aE 17A 1M 1eA 1dM 59A bM fA",
    "2bR 9M 2R 4O 3R 1M 18R 4M 1R 9M 1R 3M 1R 7M 29R 5M 2R 10A 30X 15A 1X 12A bX 30M 37L 1M 1L 1M",
    "4L 8M 4L 1M 3L fM 2L 2M 1dL 1M 3aL 1M 4L 6M 6L 1M 14L 4M cL 2T 7L 1T 2L 5M 39L 2M 3L 1bM 14L",
    "2M 3L 1M bL 2M 39L 1M 4L 8M 4L 3M 12L 4M bL 8T 1L 8M 3aL 1M 2L 1M 1L 6M 6L aM bL 4M 1cL 1M",
    "3dL 1M cL 3M 23L 6O 1T 6O 1M 3L 1M 37L 1X 1L 3M 5L 12M 5L 3X 2L 4M 12L 7O 2L 1M 3aL 1M fL 9M",
    "8L 1X 4L 4M dL dX 2M 39L 2M 4L 5M 7L 1M 14L 4M 1bL 1M 48L 5M 3L 6M 59L 1M 2L bM 1T 7L 8M 62L",
    "1M 2L 9M bL 6M 2X 48L 2M 1bL 1M 1L 1M 1L 1M 4O 33L eM 1L 5M 1L 2M 5L 31M 8L 1M 66L 4M 1L 6M",
    "1L 2M 2L 2M 19L 2M 4L 3M 10L 4M dL 1M 2L 2M 6L 1M fL 1M 2bfL 3M 30L 10O 60L 1O 29aL 5O 6dL 1X",
    "4L 3M bX 12L 3M 1dL eM 12L eM 37L 7M 8L 1M 2L bM 7L 1T 1L 3M 10L 20O 75L 2M 22L 1M 76L 3M 4L",
    "2M 9L 1M 6L 7M 6O 98L 22O 17L 2M 2L 3M 38L 1M 1L 9M 1L 1M 2L 8M 6L dM 30L 11M 3fX 4M 30L 1M",
    "1L 5M 1L 1M 5L 1M 9L 4X 1bL 9M 9L 3X 2M 20L 4M 2L 2M 1L 3M 38L 1M 1L 2M 3L 1M 1L 3M 3aL 8M 2L",
    "5M 95L 3M 1L dM 1L 7M 4L 1M 6L 1M 3L 2M c6L 3aM 1X 6M 20bL 4B 20O 5T fO 1C 5bO 20T 10X 34M",
    "2aO cT 14O 3cL 88O 1S 1T 122O 45L 1aO 1L 316O 1L 153O 100L 330O 2fL 2X 84L 7O 3L 4M 6L 7O 7fL",
    "1M 60L 20M 53O 2dX 185O 3L 19O 9L 4M 2L 1O 6L 4O 2L 4O 58L 4M 3L 1O 5aL 1O c4L 30O 1bd0L 40O",
    "51fdL 3X 490L 40O 13dL 3O 5fL 4M 1O aM 3O 1dL 2M 50L 2M eL 23O 65L 1O 38L 2X eL 25X cL 1M 3L",
    "1M 4L 1M 19L 2M 1L 4O 4M 8L 8T 34L cO 44L aM 12L 12M dL 1M 26L 8M 19L bM 2eL 3M 30L 1M 2L 4M",
    "2L 2M 27L 1M 43L 6M 2L 2M 2L bM 3L 1M 8L 1M 2fL 1M 33L 1M 1L 3M 2L 2M 5L 2M 1L 1M 2aL 2M 8L",
    "bM 69L 56O 25L 1M 2L 1M 4L 3M 4f2eL 94M 10A 17cX 2O bdX 1O 22X 25M 2eO 18dA 101L 1O 3eL 4dO",
    "3L 40O 2dL 83M 60L 1M 1fE 76L aM 217L 69X 180L 80X 11fR 1O e1R fM 28R 8M a5R 6M 4eR 7O 1c0R",
    "24A cM 150N 2bR 2M 50R 3X 30R 16A bM 1fA 40X 50R 1L 1M 36L fM bL 14O aL fX 3M 31L 4M 2L 2M 7L",
    "eX 30L 3M 24L 5M 1L 9M 3dL 1M cL 2M 34L 9M aL 4M 2L 1M 5fL 3M 2L 1M 1L 2M 6L 1M 41X 5fL 1M 3L",
    "dM 10L 2M 39L 2M 3L 1M 25L 9aM 38L 8M 2L 3M 1L 1M 17L 1M 54L 6M 1L 1M 4L 2M 1L 2M eeL 6M 4L",
    "2M 1L 2M 1bL 24M 33L 8M 2L 1M 1L 2M 1fL 20O 2bL 1M 1L 1M 2L 6M 1L 1M 1L 7X 5dL 3M 2L 4M 1L 9M",
    "10L c0X 2fL 9M 1L 2M 100L 2M 1L 1M 4L 1M 90L 8M 4L 1M 20L 6M 2L 2M 28L 6M 2L 4M 8L 9M 1L 6M",
    "2L 3M 2eL dM 1L 2M 16L 10X 40L 100X 30L eM 54L 17M 1L 7M 1L 2M 1L 4bM 31L 15M 1L 9M 40L 3M 2L",
    "1M 1L 1M 15bL 2M bL b0X 25L 8O 4T 1eO f91L 70X 42fL fd1X 2670L 60X 20L 5M 3bL 7M 418L 1M 3fL",
    "4M 4fL 1O 1L cM 4000L 10X 11fL 31X 5L fX b39L 2M 1261L 100X 167L 3M 11L 8M 2L 7M 1eL 4M 3bL",
    "17X 42O 3M 7bO 20X 20L 60O 6a0L 37M 4L 32M 8L 1M eL 1M 16L 465M 100X 8fM 71X 30L 7M 159L 30X",
    "2cL 4M fL 1d1T 330X d0R 52M 22R 7M 326R 27fA 260O 1dL 3O 3dL 39O 7aL 47cO 4X 94O cX 59O 7X",
    "10O 10X 179O 1X 52O 1X a8O 3X 3O 5X 7O 9X 19O 7X 7O 9X 3O dX 7O 29X 500O a6deL 22X 1035L bX",
    "5c10L decb0X"]

/-- The signs that take the vowel from a letter. -/
def viramas : List Nat :=
  [0x94D, 0x9CD, 0xA4D, 0xACD, 0xB4D, 0xBCD, 0xC4D, 0xCCD, 0xD3B, 0xD3C, 0xD4D, 0xDCA, 0xE3A,
    0xEBA, 0xF84, 0x1039, 0x103A, 0x1714, 0x1734, 0x17D2, 0x1A60, 0x1B44, 0x1BAA, 0x1BAB, 0x1BF2,
    0x1BF3, 0x2D7F, 0xA806, 0xA8C4, 0xA953, 0xA9C0, 0xAAF6, 0xABED, 0x10A3F, 0x11046, 0x1107F,
    0x110B9, 0x11133, 0x11134, 0x111C0, 0x11235, 0x112EA, 0x1134D, 0x11442, 0x114C2, 0x115BF,
    0x1163F, 0x116B6, 0x1172B, 0x11839, 0x119E0, 0x11A34, 0x11A47, 0x11A99, 0x11C3F, 0x11D44,
    0x11D45, 0x11D97]

def markRuns : List Run := readRuns markLines

def joiningRuns : List Run := readRuns joiningLines

def directionRuns : List Run := readRuns directionLines

/-- A sign that takes the vowel from a letter, behind which joiners may stand. -/
def isVirama (character : Char) : Bool := viramas.contains character.toNat

def joins (kinds : List Char) (letters : List Char) : Bool :=
  letters.any fun letter => kinds.contains (kindOf joiningRuns letter)

/-- One of the two invisible joiners. -/
def isJoiner (character : Char) : Bool := character == '\u200c' || character == '\u200d'

/-- Whether a joiner may stand between the characters before and those behind it: behind a virama,
or, if it keeps letters apart, somewhere between letters that would otherwise be joined. -/
def joinerAllowed (before : List Char) (joiner : Char) (behind : List Char) : Bool :=
  (before.getLast?.any isVirama) ||
    joiner == '\u200c' && joins ['L', 'D'] before && joins ['R', 'D'] behind

def onlyOf (allowed : String) (kinds : List Char) : Bool := kinds.all allowed.toList.contains

/-- Whether a label keeps to one direction.  One without letters from right to left does; of one
that starts from left to right, the last character that is no mark may have any direction. -/
def directionAllowed (label : List Char) : Bool :=
  let kinds := label.map (kindOf directionRuns)
  match kinds.reverse.dropWhile (· == 'M') with
  | [] => false
  | last :: before =>
      if !kinds.any fun kind => ['R', 'A', 'N'].contains kind then true
      else if kinds.head? == some 'L' then onlyOf "LESCTOBM" before
      else
        onlyOf "RANESCTOBM" (last :: before) && ['R', 'A', 'E', 'N'].contains last &&
          !(kinds.contains 'E' && kinds.contains 'N')

def encodedMark : List Char := "xn--".toList

def isLabel (label : List Char) : Bool :=
  match label with
  | [] => false
  | first :: _ =>
      !encodedMark.isPrefixOf label && !label.contains '.' && kindOf markRuns first != 'M' &&
        match label.dropWhile fun character => !isJoiner character with
        | joiner :: behind =>
            joinerAllowed (label.takeWhile fun character => !isJoiner character) joiner behind
        | [] => directionAllowed label

end BlobStorage.Idna
