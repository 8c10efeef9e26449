import Bindery.Unicode.Ranges

/-!
# Bindery — Unicode — Category

General categories.  The table cuts the code points into runs of one category; a run is written
as its length in base 36, a colon and the category.  A group such as `L` stands for every
category that starts with its letter, and `LC` for the cased letters.
-/

namespace Bindery.Unicode.Category

/-- The runs of code points of one category, in ascending order. -/
def runsText : String :=
  "w:Cc 1:Zs 3:Po 1:Sc 3:Po 1:Ps 1:Pe 1:Po 1:Sm 1:Po 1:Pd 2:Po a:Nd 2:Po 3:Sm 2:Po q:Lu 1:Ps
  1:Po 1:Pe 1:Sk 1:Pc 1:Sk q:Ll 1:Ps 1:Sm 1:Pe 1:Sm x:Cc 1:Zs 1:Po 4:Sc 1:So 1:Po 1:Sk 1:So
  1:Lo 1:Pi 1:Sm 1:Cf 1:So 1:Sk 1:So 1:Sm 2:No 1:Sk 1:Ll 2:Po 1:Sk 1:No 1:Lo 1:Pf 3:No 1:Po
  n:Lu 1:Sm 7:Lu o:Ll 1:Sm 8:Ll 1:Lu 1:Ll 1:Lu 1:Ll 1:Lu 1:Ll 1:Lu 1:Ll 1:Lu 1:Ll 1:Lu 1:Ll
  1:Lu 1:Ll 1:Lu 1:Ll 1:Lu 1:Ll 1:Lu 1:Ll 1:Lu 1:Ll 1:Lu 1:Ll 1:Lu 1:Ll 1:Lu 1:Ll 1:Lu 1:Ll
  1:Lu 1:Ll 1:Lu 1:Ll 1:Lu 1:Ll 1:Lu 1:Ll 1:Lu 1:Ll 1:Lu 1:Ll 1:Lu 1:Ll 1:Lu 1:Ll 1:Lu 1:Ll
  1:Lu 1:Ll 1:Lu 1:Ll 1:Lu 1:Ll 1:Lu 2:Ll 1:Lu 1:Ll 1:Lu 1:Ll 1:Lu 1:Ll 1:Lu 1:Ll 1:Lu 1:Ll
  1:Lu 1:Ll 1:Lu 1:Ll 1:Lu 2:Ll 1:Lu 1:Ll 1:Lu 1:Ll 1:Lu 1:Ll 1:Lu 1:Ll 1:Lu 1:Ll 1:Lu 1:Ll
  1:Lu 1:Ll 1:Lu 1:Ll 1:Lu 1:Ll 1:Lu 1:Ll 1:Lu 1:Ll 1:Lu 1:Ll 1:Lu 1:Ll 1:Lu 1:Ll 1:Lu 1:Ll
  1:Lu 1:Ll 1:Lu 1:Ll 1:Lu 1:Ll 1:Lu 1:Ll 1:Lu 1:Ll 1:Lu 1:Ll 1:Lu 1:Ll 1:Lu 1:Ll 2:Lu 1:Ll
  1:Lu 1:Ll 1:Lu 3:Ll 2:Lu 1:Ll 1:Lu 1:Ll 2:Lu 1:Ll 3:Lu 2:Ll 4:Lu 1:Ll 2:Lu 1:Ll 3:Lu 3:Ll
  2:Lu 1:Ll 2:Lu 1:Ll 1:Lu 1:Ll 1:Lu 1:Ll 2:Lu 1:Ll 1:Lu 2:Ll 1:Lu 1:Ll 2:Lu 1:Ll 3:Lu 1:Ll
  1:Lu 1:Ll 2:Lu 2:Ll 1:Lo 1:Lu 3:Ll 4:Lo 1:Lu 1:Lt 1:Ll 1:Lu 1:Lt 1:Ll 1:Lu 1:Lt 1:Ll 1:Lu
  1:Ll 1:Lu 1:Ll 1:Lu 1:Ll 1:Lu 1:Ll 1:Lu 1:Ll 1:Lu 1:Ll 1:Lu 1:Ll 1:Lu 2:Ll 1:Lu 1:Ll 1:Lu
  1:Ll 1:Lu 1:Ll 1:Lu 1:Ll 1:Lu 1:Ll 1:Lu 1:Ll 1:Lu 1:Ll 1:Lu 1:Ll 1:Lu 2:Ll 1:Lu 1:Lt 1:Ll
  1:Lu 1:Ll 3:Lu 1:Ll 1:Lu 1:Ll 1:Lu 1:Ll 1:Lu 1:Ll 1:Lu 1:Ll 1:Lu 1:Ll 1:Lu 1:Ll 1:Lu 1:Ll
  1:Lu 1:Ll 1:Lu 1:Ll 1:Lu 1:Ll 1:Lu 1:Ll 1:Lu 1:Ll 1:Lu 1:Ll 1:Lu 1:Ll 1:Lu 1:Ll 1:Lu 1:Ll
  1:Lu 1:Ll 1:Lu 1:Ll 1:Lu 1:Ll 1:Lu 1:Ll 1:Lu 1:Ll 1:Lu 1:Ll 1:Lu 1:Ll 1:Lu 1:Ll 1:Lu 1:Ll
  1:Lu 1:Ll 1:Lu 1:Ll 1:Lu 1:Ll 1:Lu 7:Ll 2:Lu 1:Ll 2:Lu 2:Ll 1:Lu 1:Ll 4:Lu 1:Ll 1:Lu 1:Ll
  1:Lu 1:Ll 1:Lu 1:Ll 1:Lu 1x:Ll 1:Lo r:Ll i:Lm 4:Sk c:Lm e:Sk 5:Lm 7:Sk 1:Lm 1:Sk 1:Lm h:Sk
  34:Mn 1:Lu 1:Ll 1:Lu 1:Ll 1:Lm 1:Sk 1:Lu 1:Ll 2:Cn 1:Lm 3:Ll 1:Po 1:Lu 4:Cn 2:Sk 1:Lu 1:Po
  3:Lu 1:Cn 1:Lu 1:Cn 2:Lu 1:Ll h:Lu 1:Cn 9:Lu z:Ll 1:Lu 2:Ll 3:Lu 3:Ll 1:Lu 1:Ll 1:Lu 1:Ll
  1:Lu 1:Ll 1:Lu 1:Ll 1:Lu 1:Ll 1:Lu 1:Ll 1:Lu 1:Ll 1:Lu 1:Ll 1:Lu 1:Ll 1:Lu 1:Ll 1:Lu 1:Ll
  1:Lu 5:Ll 1:Lu 1:Ll 1:Sm 1:Lu 1:Ll 2:Lu 2:Ll 1f:Lu 1c:Ll 1:Lu 1:Ll 1:Lu 1:Ll 1:Lu 1:Ll 1:Lu
  1:Ll 1:Lu 1:Ll 1:Lu 1:Ll 1:Lu 1:Ll 1:Lu 1:Ll 1:Lu 1:Ll 1:Lu 1:Ll 1:Lu 1:Ll 1:Lu 1:Ll 1:Lu
  1:Ll 1:Lu 1:Ll 1:Lu 1:Ll 1:Lu 1:Ll 1:Lu 1:Ll 1:So 5:Mn 2:Me 1:Lu 1:Ll 1:Lu 1:Ll 1:Lu 1:Ll
  1:Lu 1:Ll 1:Lu 1:Ll 1:Lu 1:Ll 1:Lu 1:Ll 1:Lu 1:Ll 1:Lu 1:Ll 1:Lu 1:Ll 1:Lu 1:Ll 1:Lu 1:Ll
  1:Lu 1:Ll 1:Lu 1:Ll 1:Lu 1:Ll 1:Lu 1:Ll 1:Lu 1:Ll 1:Lu 1:Ll 1:Lu 1:Ll 1:Lu 1:Ll 1:Lu 1:Ll
  1:Lu 1:Ll 1:Lu 1:Ll 1:Lu 1:Ll 1:Lu 1:Ll 1:Lu 1:Ll 1:Lu 1:Ll 2:Lu 1:Ll 1:Lu 1:Ll 1:Lu 1:Ll
  1:Lu 1:Ll 1:Lu 1:Ll 1:Lu 1:Ll 1:Lu 2:Ll 1:Lu 1:Ll 1:Lu 1:Ll 1:Lu 1:Ll 1:Lu 1:Ll 1:Lu 1:Ll
  1:Lu 1:Ll 1:Lu 1:Ll 1:Lu 1:Ll 1:Lu 1:Ll 1:Lu 1:Ll 1:Lu 1:Ll 1:Lu 1:Ll 1:Lu 1:Ll 1:Lu 1:Ll
  1:Lu 1:Ll 1:Lu 1:Ll 1:Lu 1:Ll 1:Lu 1:Ll 1:Lu 1:Ll 1:Lu 1:Ll 1:Lu 1:Ll 1:Lu 1:Ll 1:Lu 1:Ll
  1:Lu 1:Ll 1:Lu 1:Ll 1:Lu 1:Ll 1:Lu 1:Ll 1:Lu 1:Ll 1:Lu 1:Ll 1:Lu 1:Ll 1:Lu 1:Ll 1:Lu 1:Ll
  1:Lu 1:Ll 1:Lu 1:Ll 1:Lu 1:Ll 1:Lu 1:Ll 1:Lu 1:Ll 1:Lu 1:Ll 1:Lu 1:Ll 1:Lu 1:Ll 1:Lu 1:Ll
  1:Lu 1:Ll 1:Lu 1:Ll 1:Lu 1:Ll 1:Lu 1:Ll 1:Lu 1:Ll 1:Lu 1:Ll 1:Lu 1:Ll 1:Cn 12:Lu 2:Cn 1:Lm
  6:Po 15:Ll 1:Po 1:Pd 2:Cn 2:So 1:Sc 1:Cn 19:Mn 1:Pd 1:Mn 1:Po 2:Mn 1:Po 2:Mn 1:Po 1:Mn 8:Cn
  r:Lo 4:Cn 4:Lo 2:Po b:Cn 6:Cf 3:Sm 2:Po 1:Sc 2:Po 2:So b:Mn 1:Po 1:Cf 3:Po w:Lo 1:Lm a:Lo
  l:Mn a:Nd 4:Po 2:Lo 1:Mn 2r:Lo 1:Po 1:Lo 7:Mn 1:Cf 1:So 6:Mn 2:Lm 2:Mn 1:So 4:Mn 2:Lo a:Nd
  3:Lo 2:So 1:Lo e:Po 1:Cn 1:Cf 1:Lo 1:Mn u:Lo r:Mn 2:Cn 2h:Lo b:Mn 1:Lo e:Cn a:Nd x:Lo 9:Mn
  2:Lm 1:So 3:Po 1:Lm 2:Cn 1:Mn 2:Sc m:Lo 4:Mn 1:Lm 9:Mn 1:Lm 3:Mn 1:Lm 5:Mn 2:Cn f:Po 1:Cn
  p:Lo 3:Mn 2:Cn 1:Po 1:Cn b:Lo 5:Cn o:Lo 1:Sk 6:Lo 1:Cn 2:Cf 6:Cn 8:Mn 15:Lo 1:Lm o:Mn 1:Cf
  w:Mn 1:Mc 1i:Lo 1:Mn 1:Mc 1:Mn 1:Lo 3:Mc 8:Mn 4:Mc 1:Mn 2:Mc 1:Lo 7:Mn a:Lo 2:Mn 2:Po a:Nd
  1:Po 1:Lm f:Lo 1:Mn 2:Mc 1:Cn 8:Lo 2:Cn 2:Lo 2:Cn m:Lo 1:Cn 7:Lo 1:Cn 1:Lo 3:Cn 4:Lo 2:Cn
  1:Mn 1:Lo 3:Mc 4:Mn 2:Cn 2:Mc 2:Cn 2:Mc 1:Mn 1:Lo 8:Cn 1:Mc 4:Cn 2:Lo 1:Cn 3:Lo 2:Mn 2:Cn
  a:Nd 2:Lo 2:Sc 6:No 1:So 1:Sc 1:Lo 1:Po 1:Mn 2:Cn 2:Mn 1:Mc 1:Cn 6:Lo 4:Cn 2:Lo 2:Cn m:Lo
  1:Cn 7:Lo 1:Cn 2:Lo 1:Cn 2:Lo 1:Cn 2:Lo 2:Cn 1:Mn 1:Cn 3:Mc 2:Mn 4:Cn 2:Mn 2:Cn 3:Mn 3:Cn
  1:Mn 7:Cn 4:Lo 1:Cn 1:Lo 7:Cn a:Nd 2:Mn 3:Lo 1:Mn 1:Po a:Cn 2:Mn 1:Mc 1:Cn 9:Lo 1:Cn 3:Lo
  1:Cn m:Lo 1:Cn 7:Lo 1:Cn 2:Lo 1:Cn 5:Lo 2:Cn 1:Mn 1:Lo 3:Mc 5:Mn 1:Cn 2:Mn 1:Mc 1:Cn 2:Mc
  1:Mn 2:Cn 1:Lo f:Cn 2:Lo 2:Mn 2:Cn a:Nd 1:Po 1:Sc 7:Cn 1:Lo 6:Mn 1:Cn 1:Mn 2:Mc 1:Cn 8:Lo
  2:Cn 2:Lo 2:Cn m:Lo 1:Cn 7:Lo 1:Cn 2:Lo 1:Cn 5:Lo 2:Cn 1:Mn 1:Lo 1:Mc 1:Mn 1:Mc 4:Mn 2:Cn
  2:Mc 2:Cn 2:Mc 1:Mn 7:Cn 2:Mn 1:Mc 4:Cn 2:Lo 1:Cn 3:Lo 2:Mn 2:Cn a:Nd 1:So 1:Lo 6:No a:Cn
  1:Mn 1:Lo 1:Cn 6:Lo 3:Cn 3:Lo 1:Cn 4:Lo 3:Cn 2:Lo 1:Cn 1:Lo 1:Cn 2:Lo 3:Cn 2:Lo 3:Cn 3:Lo
  3:Cn c:Lo 4:Cn 2:Mc 1:Mn 2:Mc 3:Cn 3:Mc 1:Cn 3:Mc 1:Mn 2:Cn 1:Lo 6:Cn 1:Mc e:Cn a:Nd 3:No
  6:So 1:Sc 1:So 5:Cn 1:Mn 3:Mc 1:Mn 8:Lo 1:Cn 3:Lo 1:Cn n:Lo 1:Cn g:Lo 2:Cn 1:Mn 1:Lo 3:Mn
  4:Mc 1:Cn 3:Mn 1:Cn 4:Mn 7:Cn 2:Mn 1:Cn 3:Lo 2:Cn 1:Lo 2:Cn 2:Lo 2:Mn 2:Cn a:Nd 7:Cn 1:Po
  7:No 1:So 1:Lo 1:Mn 2:Mc 1:Po 8:Lo 1:Cn 3:Lo 1:Cn n:Lo 1:Cn a:Lo 1:Cn 5:Lo 2:Cn 1:Mn 1:Lo
  1:Mc 1:Mn 5:Mc 1:Cn 1:Mn 2:Mc 1:Cn 2:Mc 2:Mn 7:Cn 2:Mc 6:Cn 2:Lo 1:Cn 2:Lo 2:Mn 2:Cn a:Nd
  1:Cn 2:Lo 1:Mc c:Cn 2:Mn 2:Mc 9:Lo 1:Cn 3:Lo 1:Cn 15:Lo 2:Mn 1:Lo 3:Mc 4:Mn 1:Cn 3:Mc 1:Cn
  3:Mc 1:Mn 1:Lo 1:So 4:Cn 3:Lo 1:Mc 7:No 3:Lo 2:Mn 2:Cn a:Nd 9:No 1:So 6:Lo 1:Cn 1:Mn 2:Mc
  1:Cn i:Lo 3:Cn o:Lo 1:Cn 9:Lo 1:Cn 1:Lo 2:Cn 7:Lo 3:Cn 1:Mn 4:Cn 3:Mc 3:Mn 1:Cn 1:Mn 1:Cn
  8:Mc 6:Cn a:Nd 2:Cn 2:Mc 1:Po c:Cn 1c:Lo 1:Mn 2:Lo 7:Mn 4:Cn 1:Sc 6:Lo 1:Lm 8:Mn 1:Po a:Nd
  2:Po 11:Cn 2:Lo 1:Cn 1:Lo 1:Cn 5:Lo 1:Cn o:Lo 1:Cn 1:Lo 1:Cn a:Lo 1:Mn 2:Lo 9:Mn 1:Lo 2:Cn
  5:Lo 1:Cn 1:Lm 1:Cn 7:Mn 1:Cn a:Nd 2:Cn 4:Lo w:Cn 1:Lo 3:So f:Po 1:So 1:Po 3:So 2:Mn 6:So
  a:Nd a:No 1:So 1:Mn 1:So 1:Mn 1:So 1:Mn 1:Ps 1:Pe 1:Ps 1:Pe 2:Mc 8:Lo 1:Cn 10:Lo 4:Cn e:Mn
  1:Mc 5:Mn 1:Po 2:Mn 5:Lo b:Mn 1:Cn 10:Mn 1:Cn 8:So 1:Mn 6:So 1:Cn 2:So 5:Po 4:So 2:Po 11:Cn
  17:Lo 2:Mc 4:Mn 1:Mc 6:Mn 1:Mc 2:Mn 2:Mc 2:Mn 1:Lo a:Nd 6:Po 6:Lo 2:Mc 2:Mn 4:Lo 3:Mn 1:Lo
  3:Mc 2:Lo 7:Mc 3:Lo 4:Mn d:Lo 1:Mn 2:Mc 2:Mn 6:Mc 1:Mn 1:Lo 1:Mc a:Nd 3:Mc 1:Mn 2:So 12:Lu
  1:Cn 1:Lu 5:Cn 1:Lu 2:Cn 17:Ll 1:Po 1:Lm 3:Ll 95:Lo 1:Cn 4:Lo 2:Cn 7:Lo 1:Cn 1:Lo 1:Cn 4:Lo
  2:Cn 15:Lo 1:Cn 4:Lo 2:Cn x:Lo 1:Cn 4:Lo 2:Cn 7:Lo 1:Cn 1:Lo 1:Cn 4:Lo 2:Cn f:Lo 1:Cn 1l:Lo
  1:Cn 4:Lo 2:Cn 1v:Lo 2:Cn 3:Mn 9:Po k:No 3:Cn g:Lo a:So 6:Cn 2e:Lu 2:Cn 6:Ll 2:Cn 1:Pd
  h8:Lo 1:So 1:Po h:Lo 1:Zs q:Lo 1:Ps 1:Pe 3:Cn 23:Lo 3:Po 3:Nl 8:Lo 7:Cn i:Lo 3:Mn 1:Mc 9:Cn
  j:Lo 2:Mn 1:Mc 2:Po 9:Cn i:Lo 2:Mn c:Cn d:Lo 1:Cn 3:Lo 1:Cn 2:Mn c:Cn 1g:Lo 2:Mn 1:Mc 7:Mn
  8:Mc 1:Mn 2:Mc b:Mn 3:Po 1:Lm 3:Po 1:Sc 1:Lo 1:Mn 2:Cn a:Nd 6:Cn a:No 6:Cn 6:Po 1:Pd 4:Po
  3:Mn 1:Cf 1:Mn a:Nd 6:Cn z:Lo 1:Lm 1h:Lo 7:Cn 5:Lo 2:Mn y:Lo 1:Mn 1:Lo 5:Cn 1y:Lo a:Cn v:Lo
  1:Cn 3:Mn 4:Mc 2:Mn 3:Mc 4:Cn 2:Mc 1:Mn 6:Mc 3:Mn 4:Cn 1:So 3:Cn 2:Po a:Nd u:Lo 2:Cn 5:Lo
  b:Cn 18:Lo 4:Cn q:Lo 6:Cn a:Nd 1:No 3:Cn y:So n:Lo 2:Mn 2:Mc 1:Mn 2:Cn 2:Po 1h:Lo 1:Mc 1:Mn
  1:Mc 7:Mn 1:Cn 1:Mn 1:Mc 1:Mn 2:Mc 8:Mn 6:Mc a:Mn 2:Cn 1:Mn a:Nd 6:Cn a:Nd 6:Cn 7:Po 1:Lm
  6:Po 2:Cn e:Mn 1:Me g:Mn 1d:Cn 4:Mn 1:Mc 1b:Lo 1:Mn 1:Mc 5:Mn 1:Mc 1:Mn 5:Mc 1:Mn 2:Mc 8:Lo
  3:Cn a:Nd 7:Po a:So 9:Mn 9:So 2:Po 1:Cn 2:Mn 1:Mc u:Lo 1:Mc 4:Mn 2:Mc 2:Mn 1:Mc 3:Mn 2:Lo
  a:Nd 18:Lo 1:Mn 1:Mc 2:Mn 3:Mc 1:Mn 1:Mc 3:Mn 2:Mc 8:Cn 4:Po 10:Lo 8:Mc 8:Mn 2:Mc 2:Mn 3:Cn
  5:Po a:Nd 3:Cn 3:Lo a:Nd u:Lo 6:Lm 2:Po 9:Ll 7:Cn 17:Lu 2:Cn 3:Lu 8:Po 8:Cn 3:Mn 1:Po d:Mn
  1:Mc 7:Mn 4:Lo 1:Mn 6:Lo 1:Mn 2:Lo 1:Mc 2:Mn 1:Lo 5:Cn 18:Ll 1r:Lm d:Ll 1:Lm y:Ll 11:Lm
  1s:Mn 1:Lu 1:Ll 1:Lu 1:Ll 1:Lu 1:Ll 1:Lu 1:Ll 1:Lu 1:Ll 1:Lu 1:Ll 1:Lu 1:Ll 1:Lu 1:Ll 1:Lu
  1:Ll 1:Lu 1:Ll 1:Lu 1:Ll 1:Lu 1:Ll 1:Lu 1:Ll 1:Lu 1:Ll 1:Lu 1:Ll 1:Lu 1:Ll 1:Lu 1:Ll 1:Lu
  1:Ll 1:Lu 1:Ll 1:Lu 1:Ll 1:Lu 1:Ll 1:Lu 1:Ll 1:Lu 1:Ll 1:Lu 1:Ll 1:Lu 1:Ll 1:Lu 1:Ll 1:Lu
  1:Ll 1:Lu 1:Ll 1:Lu 1:Ll 1:Lu 1:Ll 1:Lu 1:Ll 1:Lu 1:Ll 1:Lu 1:Ll 1:Lu 1:Ll 1:Lu 1:Ll 1:Lu
  1:Ll 1:Lu 1:Ll 1:Lu 1:Ll 1:Lu 1:Ll 1:Lu 1:Ll 1:Lu 1:Ll 1:Lu 1:Ll 1:Lu 1:Ll 1:Lu 1:Ll 1:Lu
  1:Ll 1:Lu 1:Ll 1:Lu 1:Ll 1:Lu 1:Ll 1:Lu 1:Ll 1:Lu 1:Ll 1:Lu 1:Ll 1:Lu 1:Ll 1:Lu 1:Ll 1:Lu
  1:Ll 1:Lu 1:Ll 1:Lu 1:Ll 1:Lu 1:Ll 1:Lu 1:Ll 1:Lu 1:Ll 1:Lu 1:Ll 1:Lu 1:Ll 1:Lu 1:Ll 1:Lu
  1:Ll 1:Lu 1:Ll 1:Lu 1:Ll 1:Lu 1:Ll 1:Lu 1:Ll 1:Lu 1:Ll 1:Lu 1:Ll 1:Lu 1:Ll 1:Lu 1:Ll 1:Lu
  1:Ll 1:Lu 1:Ll 1:Lu 1:Ll 1:Lu 9:Ll 1:Lu 1:Ll 1:Lu 1:Ll 1:Lu 1:Ll 1:Lu 1:Ll 1:Lu 1:Ll 1:Lu
  1:Ll 1:Lu 1:Ll 1:Lu 1:Ll 1:Lu 1:Ll 1:Lu 1:Ll 1:Lu 1:Ll 1:Lu 1:Ll 1:Lu 1:Ll 1:Lu 1:Ll 1:Lu
  1:Ll 1:Lu 1:Ll 1:Lu 1:Ll 1:Lu 1:Ll 1:Lu 1:Ll 1:Lu 1:Ll 1:Lu 1:Ll 1:Lu 1:Ll 1:Lu 1:Ll 1:Lu
  1:Ll 1:Lu 1:Ll 1:Lu 1:Ll 1:Lu 1:Ll 1:Lu 1:Ll 1:Lu 1:Ll 1:Lu 1:Ll 1:Lu 1:Ll 1:Lu 1:Ll 1:Lu
  1:Ll 1:Lu 1:Ll 1:Lu 1:Ll 1:Lu 1:Ll 1:Lu 1:Ll 1:Lu 1:Ll 1:Lu 1:Ll 1:Lu 1:Ll 1:Lu 1:Ll 1:Lu
  1:Ll 1:Lu 1:Ll 1:Lu 1:Ll 1:Lu 1:Ll 1:Lu 1:Ll 1:Lu 1:Ll 1:Lu 1:Ll 1:Lu 9:Ll 8:Lu 6:Ll 2:Cn
  6:Lu 2:Cn 8:Ll 8:Lu 8:Ll 8:Lu 6:Ll 2:Cn 6:Lu 2:Cn 8:Ll 1:Cn 1:Lu 1:Cn 1:Lu 1:Cn 1:Lu 1:Cn
  1:Lu 8:Ll 8:Lu e:Ll 2:Cn 8:Ll 8:Lt 8:Ll 8:Lt 8:Ll 8:Lt 5:Ll 1:Cn 2:Ll 4:Lu 1:Lt 1:Sk 1:Ll
  3:Sk 3:Ll 1:Cn 2:Ll 4:Lu 1:Lt 3:Sk 4:Ll 2:Cn 2:Ll 4:Lu 1:Cn 3:Sk 8:Ll 5:Lu 3:Sk 2:Cn 3:Ll
  1:Cn 2:Ll 4:Lu 1:Lt 2:Sk 1:Cn b:Zs 5:Cf 6:Pd 2:Po 1:Pi 1:Pf 1:Ps 2:Pi 1:Pf 1:Ps 1:Pi 8:Po
  1:Zl 1:Zp 5:Cf 1:Zs 9:Po 1:Pi 1:Pf 4:Po 2:Pc 3:Po 1:Sm 1:Ps 1:Pe b:Po 1:Sm 1:Po 1:Pc a:Po
  1:Zs 5:Cf 1:Cn a:Cf 1:No 1:Lm 2:Cn 6:No 3:Sm 1:Ps 1:Pe 1:Lm a:No 3:Sm 1:Ps 1:Pe 1:Cn d:Lm
  3:Cn x:Sc f:Cn d:Mn 4:Me 1:Mn 3:Me c:Mn f:Cn 2:So 1:Lu 4:So 1:Lu 2:So 1:Ll 3:Lu 2:Ll 3:Lu
  1:Ll 1:So 1:Lu 2:So 1:Sm 5:Lu 6:So 1:Lu 1:So 1:Lu 1:So 1:Lu 1:So 4:Lu 1:So 1:Ll 4:Lu 1:Ll
  4:Lo 1:Ll 2:So 2:Ll 2:Lu 5:Sm 1:Lu 4:Ll 1:So 1:Sm 2:So 1:Ll 1:So g:No z:Nl 1:Lu 1:Ll 4:Nl
  1:No 2:So 4:Cn 5:Sm 5:So 2:Sm 4:So 1:Sm 2:So 1:Sm 2:So 1:Sm 7:So 1:Sm v:So 2:Sm 2:So 1:Sm
  1:So 1:Sm v:So 7g:Sm 8:So 1:Ps 1:Pe 1:Ps 1:Pe k:So 2:Sm 7:So 1:Ps 1:Pe 29:So 1:Sm u:So p:Sm
  14:So 6:Sm 1x:So p:Cn b:So l:Cn 1o:No 26:So m:No 53:So 1:Sm 9:So 1:Sm 1i:So 8:Sm 33:So 1:Sm
  6w:So 1:Ps 1:Pe 1:Ps 1:Pe 1:Ps 1:Pe 1:Ps 1:Pe 1:Ps 1:Pe 1:Ps 1:Pe 1:Ps 1:Pe u:No 18:So 5:Sm
  1:Ps 1:Pe v:Sm 1:Ps 1:Pe 1:Ps 1:Pe 1:Ps 1:Pe 1:Ps 1:Pe 1:Ps 1:Pe g:Sm 74:So 3n:Sm 1:Ps 1:Pe
  1:Ps 1:Pe 1:Ps 1:Pe 1:Ps 1:Pe 1:Ps 1:Pe 1:Ps 1:Pe 1:Ps 1:Pe 1:Ps 1:Pe 1:Ps 1:Pe 1:Ps 1:Pe
  1:Ps 1:Pe 1r:Sm 1:Ps 1:Pe 1:Ps 1:Pe w:Sm 1:Ps 1:Pe 76:Sm 1c:So l:Sm 2:So 6:Sm 13:So 2:Cn
  w:So 1:Cn 2x:So 1c:Lu 1c:Ll 1:Lu 1:Ll 3:Lu 2:Ll 1:Lu 1:Ll 1:Lu 1:Ll 1:Lu 1:Ll 4:Lu 1:Ll
  1:Lu 2:Ll 1:Lu 6:Ll 2:Lm 3:Lu 1:Ll 1:Lu 1:Ll 1:Lu 1:Ll 1:Lu 1:Ll 1:Lu 1:Ll 1:Lu 1:Ll 1:Lu
  1:Ll 1:Lu 1:Ll 1:Lu 1:Ll 1:Lu 1:Ll 1:Lu 1:Ll 1:Lu 1:Ll 1:Lu 1:Ll 1:Lu 1:Ll 1:Lu 1:Ll 1:Lu
  1:Ll 1:Lu 1:Ll 1:Lu 1:Ll 1:Lu 1:Ll 1:Lu 1:Ll 1:Lu 1:Ll 1:Lu 1:Ll 1:Lu 1:Ll 1:Lu 1:Ll 1:Lu
  1:Ll 1:Lu 1:Ll 1:Lu 1:Ll 1:Lu 1:Ll 1:Lu 1:Ll 1:Lu 1:Ll 1:Lu 1:Ll 1:Lu 1:Ll 1:Lu 1:Ll 1:Lu
  1:Ll 1:Lu 1:Ll 1:Lu 1:Ll 1:Lu 1:Ll 1:Lu 1:Ll 1:Lu 1:Ll 1:Lu 1:Ll 1:Lu 1:Ll 1:Lu 1:Ll 1:Lu
  1:Ll 1:Lu 1:Ll 1:Lu 1:Ll 1:Lu 1:Ll 1:Lu 1:Ll 1:Lu 1:Ll 1:Lu 1:Ll 1:Lu 2:Ll 6:So 1:Lu 1:Ll
  1:Lu 1:Ll 3:Mn 1:Lu 1:Ll 5:Cn 4:Po 1:No 2:Po 12:Ll 1:Cn 1:Ll 5:Cn 1:Ll 2:Cn 1k:Lo 7:Cn 1:Lm
  1:Po e:Cn 1:Mn n:Lo 9:Cn 7:Lo 1:Cn 7:Lo 1:Cn 7:Lo 1:Cn 7:Lo 1:Cn 7:Lo 1:Cn 7:Lo 1:Cn 7:Lo
  1:Cn 7:Lo 1:Cn w:Mn 2:Po 1:Pi 1:Pf 1:Pi 1:Pf 3:Po 1:Pi 1:Pf 1:Po 1:Pi 1:Pf 9:Po 1:Pd 2:Po
  1:Pd 1:Po 1:Pi 1:Pf 2:Po 1:Pi 1:Pf 1:Ps 1:Pe 1:Ps 1:Pe 1:Ps 1:Pe 1:Ps 1:Pe 5:Po 1:Lm a:Po
  2:Pd 4:Po 1:Pd 1:Po 1:Ps d:Po 2:So 3:Po 1:Ps 1:Pe 1:Ps 1:Pe 1:Ps 1:Pe 1:Ps 1:Pe 1:Pd y:Cn
  q:So 1:Cn 2h:So c:Cn 5y:So q:Cn c:So 4:Cn 1:Zs 3:Po 1:So 1:Lm 1:Lo 1:Nl 1:Ps 1:Pe 1:Ps 1:Pe
  1:Ps 1:Pe 1:Ps 1:Pe 1:Ps 1:Pe 2:So 1:Ps 1:Pe 1:Ps 1:Pe 1:Ps 1:Pe 1:Ps 1:Pe 1:Pd 1:Ps 2:Pe
  1:So 9:Nl 4:Mn 2:Mc 1:Pd 5:Lm 2:So 3:Nl 1:Lm 1:Lo 1:Po 2:So 1:Cn 2e:Lo 2:Cn 2:Mn 2:Sk 2:Lm
  1:Lo 1:Pd 2i:Lo 1:Po 3:Lm 1:Lo 5:Cn 17:Lo 1:Cn 2m:Lo 1:Cn 2:So 4:No a:So w:Lo 10:So c:Cn
  g:Lo v:So 1:Cn a:No u:So 8:No 1:So f:No w:So a:No 13:So f:No 8w:So 534:Lo 1s:So g7p:Lo 1:Lm
  vr:Lo 3:Cn 1j:So 9:Cn 14:Lo 6:Lm 2:Po 7g:Lo 1:Lm 3:Po g:Lo a:Nd 2:Lo k:Cn 1:Lu 1:Ll 1:Lu
  1:Ll 1:Lu 1:Ll 1:Lu 1:Ll 1:Lu 1:Ll 1:Lu 1:Ll 1:Lu 1:Ll 1:Lu 1:Ll 1:Lu 1:Ll 1:Lu 1:Ll 1:Lu
  1:Ll 1:Lu 1:Ll 1:Lu 1:Ll 1:Lu 1:Ll 1:Lu 1:Ll 1:Lu 1:Ll 1:Lu 1:Ll 1:Lu 1:Ll 1:Lu 1:Ll 1:Lu
  1:Ll 1:Lu 1:Ll 1:Lu 1:Ll 1:Lu 1:Ll 1:Lo 1:Mn 3:Me 1:Po a:Mn 1:Po 1:Lm 1:Lu 1:Ll 1:Lu 1:Ll
  1:Lu 1:Ll 1:Lu 1:Ll 1:Lu 1:Ll 1:Lu 1:Ll 1:Lu 1:Ll 1:Lu 1:Ll 1:Lu 1:Ll 1:Lu 1:Ll 1:Lu 1:Ll
  1:Lu 1:Ll 1:Lu 1:Ll 1:Lu 1:Ll 2:Lm 2:Mn 1y:Lo a:Nl 2:Mn 6:Po 8:Cn n:Sk 9:Lm 2:Sk 1:Lu 1:Ll
  1:Lu 1:Ll 1:Lu 1:Ll 1:Lu 1:Ll 1:Lu 1:Ll 1:Lu 1:Ll 1:Lu 3:Ll 1:Lu 1:Ll 1:Lu 1:Ll 1:Lu 1:Ll
  1:Lu 1:Ll 1:Lu 1:Ll 1:Lu 1:Ll 1:Lu 1:Ll 1:Lu 1:Ll 1:Lu 1:Ll 1:Lu 1:Ll 1:Lu 1:Ll 1:Lu 1:Ll
  1:Lu 1:Ll 1:Lu 1:Ll 1:Lu 1:Ll 1:Lu 1:Ll 1:Lu 1:Ll 1:Lu 1:Ll 1:Lu 1:Ll 1:Lu 1:Ll 1:Lu 1:Ll
  1:Lu 1:Ll 1:Lu 1:Ll 1:Lu 1:Ll 1:Lu 1:Ll 1:Lu 1:Ll 1:Lu 1:Ll 1:Lu 1:Ll 1:Lu 1:Ll 1:Lu 1:Ll
  1:Lu 1:Ll 1:Lm 8:Ll 1:Lu 1:Ll 1:Lu 1:Ll 2:Lu 1:Ll 1:Lu 1:Ll 1:Lu 1:Ll 1:Lu 1:Ll 1:Lu 1:Ll
  1:Lm 2:Sk 1:Lu 1:Ll 1:Lu 1:Ll 1:Lo 1:Lu 1:Ll 1:Lu 3:Ll 1:Lu 1:Ll 1:Lu 1:Ll 1:Lu 1:Ll 1:Lu
  1:Ll 1:Lu 1:Ll 1:Lu 1:Ll 1:Lu 1:Ll 1:Lu 1:Ll 1:Lu 1:Ll 1:Lu 1:Ll 5:Lu 1:Ll 5:Lu 1:Ll 1:Lu
  1:Ll 1:Lu 1:Ll 1:Lu 1:Ll 1:Lu 1:Ll 1:Lu 1:Ll 1:Lu 1:Ll 1:Lu 1:Ll 4:Lu 1:Ll 1:Lu 1:Ll 5:Cn
  1:Lu 1:Ll 1:Cn 1:Ll 1:Cn 1:Ll 1:Lu 1:Ll 1:Lu 1:Ll o:Cn 3:Lm 1:Lu 1:Ll 1:Lo 2:Lm 1:Ll 7:Lo
  1:Mn 3:Lo 1:Mn 4:Lo 1:Mn n:Lo 2:Mc 2:Mn 1:Mc 4:So 1:Mn 3:Cn 6:No 2:So 1:Sc 1:So 6:Cn 1g:Lo
  4:Po 8:Cn 2:Mc 1e:Lo g:Mc 2:Mn 8:Cn 2:Po a:Nd 6:Cn i:Mn 6:Lo 3:Po 1:Lo 1:Po 2:Lo 1:Mn a:Nd
  s:Lo 8:Mn 2:Po n:Lo b:Mn 2:Mc b:Cn 1:Po t:Lo 3:Cn 3:Mn 1:Mc 1b:Lo 1:Mn 2:Mc 4:Mn 2:Mc 2:Mn
  3:Mc d:Po 1:Cn 1:Lm a:Nd 4:Cn 2:Po 5:Lo 1:Mn 1:Lm 9:Lo a:Nd 5:Lo 1:Cn 15:Lo 6:Mn 2:Mc 2:Mn
  2:Mc 2:Mn 9:Cn 3:Lo 1:Mn 8:Lo 1:Mn 1:Mc 2:Cn a:Nd 2:Cn 4:Po g:Lo 1:Lm 6:Lo 3:So 1:Lo 1:Mc
  1:Mn 1:Mc 1e:Lo 1:Mn 1:Lo 3:Mn 2:Lo 2:Mn 5:Lo 2:Mn 1:Lo 1:Mn 1:Lo o:Cn 2:Lo 1:Lm 2:Po b:Lo
  1:Mc 2:Mn 2:Mc 2:Po 1:Lo 2:Lm 1:Mc 1:Mn a:Cn 6:Lo 2:Cn 6:Lo 2:Cn 6:Lo 9:Cn 7:Lo 1:Cn 7:Lo
  1:Cn 17:Ll 1:Sk 4:Lm 9:Ll 1:Lm 2:Sk 4:Cn 28:Ll z:Lo 2:Mc 1:Mn 2:Mc 1:Mn 2:Mc 1:Po 1:Mc 1:Mn
  2:Cn a:Nd 6:Cn 8mc:Lo c:Cn n:Lo 4:Cn 1d:Lo 4:Cn 1kw:Cs 4xs:Co a6:Lo 2:Cn 2y:Lo 12:Cn 7:Ll
  c:Cn 5:Ll 5:Cn 1:Lo 1:Mn a:Lo 1:Sm d:Lo 1:Cn 5:Lo 1:Cn 1:Lo 1:Cn 2:Lo 1:Cn 2:Lo 1:Cn 30:Lo
  h:Sk g:Cn a3:Lo 1:Pe 1:Ps g:So 1s:Lo 2:Cn 1i:Lo 7:Cn 1:So w:Cn c:Lo 1:Sc 3:So g:Mn 7:Po
  1:Ps 1:Pe 1:Po 6:Cn g:Mn 1:Po 2:Pd 2:Pc 1:Ps 1:Pe 1:Ps 1:Pe 1:Ps 1:Pe 1:Ps 1:Pe 1:Ps 1:Pe
  1:Ps 1:Pe 1:Ps 1:Pe 1:Ps 1:Pe 2:Po 1:Ps 1:Pe 4:Po 3:Pc 3:Po 1:Cn 4:Po 1:Pd 1:Ps 1:Pe 1:Ps
  1:Pe 1:Ps 1:Pe 3:Po 1:Sm 1:Pd 3:Sm 1:Cn 1:Po 1:Sc 2:Po 4:Cn 5:Lo 1:Cn 3r:Lo 2:Cn 1:Cf 1:Cn
  3:Po 1:Sc 3:Po 1:Ps 1:Pe 1:Po 1:Sm 1:Po 1:Pd 2:Po a:Nd 2:Po 3:Sm 2:Po q:Lu 1:Ps 1:Po 1:Pe
  1:Sk 1:Pc 1:Sk q:Ll 1:Ps 1:Sm 1:Pe 1:Sm 1:Ps 1:Pe 1:Po 1:Ps 1:Pe 2:Po a:Lo 1:Lm 19:Lo 2:Lm
  v:Lo 3:Cn 6:Lo 2:Cn 6:Lo 2:Cn 6:Lo 2:Cn 3:Lo 3:Cn 2:Sc 1:Sm 1:Sk 1:So 2:Sc 1:Cn 1:So 4:Sm
  2:So a:Cn 3:Cf 2:So 2:Cn c:Lo 1:Cn q:Lo 1:Cn j:Lo 1:Cn 2:Lo 1:Cn f:Lo 2:Cn e:Lo y:Cn 3f:Lo
  5:Cn 3:Po 4:Cn 19:No 3:Cn 9:So 1h:Nl 4:No h:So 2:No 3:So 1:Cn d:So 3:Cn 1:So 1b:Cn 19:So
  1:Mn 3m:Cn t:Lo 3:Cn 1d:Lo f:Cn 1:Mn r:No 4:Cn w:Lo 4:No 9:Cn k:Lo 1:Nl 8:Lo 1:Nl 5:Cn
  12:Lo 5:Mn 5:Cn u:Lo 1:Cn 1:Po 10:Lo 4:Cn 8:Lo 1:Po 5:Nl 16:Cn 14:Lu 14:Ll 26:Lo 2:Cn a:Nd
  6:Cn 10:Lu 4:Cn 10:Ll 4:Cn 14:Lo 8:Cn 1g:Lo b:Cn 1:Po b:Lu 1:Cn f:Lu 1:Cn 7:Lu 1:Cn 2:Lu
  1:Cn b:Ll 1:Cn f:Ll 1:Cn 7:Ll 1:Cn 2:Ll 1v:Cn 8n:Lo 9:Cn m:Lo a:Cn 8:Lo o:Cn 6:Lm 1:Cn
  16:Lm 1:Cn 9:Lm 1x:Cn 6:Lo 2:Cn 1:Lo 1:Cn 18:Lo 1:Cn 2:Lo 3:Cn 1:Lo 2:Cn n:Lo 1:Cn 1:Po
  8:No n:Lo 2:So 7:No v:Lo 8:Cn 9:No 1c:Cn j:Lo 1:Cn 2:Lo 5:Cn 5:No m:Lo 6:No 3:Cn 1:Po q:Lo
  5:Cn 1:Po 1s:Cn 1k:Lo 4:Cn 2:No 2:Lo g:No 2:Cn 1a:No 1:Lo 3:Mn 1:Cn 2:Mn 5:Cn 4:Mn 4:Lo
  1:Cn 3:Lo 1:Cn t:Lo 2:Cn 3:Mn 4:Cn 1:Mn 9:No 7:Cn 9:Po 7:Cn t:Lo 2:No 1:Po t:Lo 3:No w:Cn
  8:Lo 1:So s:Lo 2:Mn 4:Cn 5:No 7:Po 9:Cn 1i:Lo 3:Cn 7:Po m:Lo 2:Cn 8:No j:Lo 5:Cn 8:No i:Lo
  7:Cn 4:Po c:Cn 7:No 28:Cn 21:Lo 1j:Cn 1f:Lu d:Cn 1f:Ll 7:Cn 6:No 10:Lo 4:Mn 8:Cn a:Nd 86:Cn
  v:No 1:Cn 16:Lo 1:Cn 2:Mn 1:Pd 2:Cn 2:Lo 23:Cn 3:Mn t:Lo a:No 1:Lo 8:Cn m:Lo b:Mn 4:No 5:Po
  m:Cn i:Lo 4:Mn 4:Po 12:Cn l:Lo 7:No k:Cn n:Lo 9:Cn 1:Mc 1:Mn 1:Mc 1h:Lo f:Mn 7:Po 4:Cn k:No
  a:Nd 1:Mn 2:Lo 2:Mn 1:Lo 9:Cn 3:Mn 1:Mc 19:Lo 3:Mc 4:Mn 2:Mc 2:Mn 2:Po 1:Cf 4:Po 1:Mn a:Cn
  1:Cf 2:Cn p:Lo 7:Cn a:Nd 6:Cn 3:Mn 10:Lo 5:Mn 1:Mc 8:Mn 1:Cn a:Nd 4:Po 1:Lo 2:Mc 1:Lo 8:Cn
  z:Lo 1:Mn 2:Po 1:Lo 9:Cn 2:Mn 1:Mc 1c:Lo 3:Mc 9:Mn 2:Mc 4:Lo 4:Po 4:Mn 1:Po 1:Mc 1:Mn a:Nd
  1:Lo 1:Po 1:Lo 3:Po 1:Cn k:No b:Cn i:Lo 1:Cn p:Lo 3:Mc 3:Mn 2:Mc 1:Mn 1:Mc 2:Mn 6:Po 1:Mn
  2:Lo 1:Mn 1q:Cn 7:Lo 1:Cn 1:Lo 1:Cn 4:Lo 1:Cn f:Lo 1:Cn a:Lo 1:Po 6:Cn 1b:Lo 1:Mn 3:Mc 8:Mn
  5:Cn a:Nd 6:Cn 2:Mn 2:Mc 1:Cn 8:Lo 2:Cn 2:Lo 2:Cn m:Lo 1:Cn 7:Lo 1:Cn 2:Lo 1:Cn 5:Lo 1:Cn
  2:Mn 1:Lo 2:Mc 1:Mn 4:Mc 2:Cn 2:Mc 2:Cn 3:Mc 2:Cn 1:Lo 6:Cn 1:Mc 5:Cn 5:Lo 2:Mc 2:Cn 7:Mn
  3:Cn 5:Mn 3v:Cn 1h:Lo 3:Mc 8:Mn 2:Mc 3:Mn 1:Mc 1:Mn 4:Lo 5:Po a:Nd 2:Po 1:Cn 1:Po 1:Mn 3:Lo
  u:Cn 1c:Lo 3:Mc 6:Mn 1:Mc 1:Mn 4:Mc 2:Mn 1:Mc 2:Mn 2:Lo 1:Po 1:Lo 8:Cn a:Nd 4m:Cn 1b:Lo
  3:Mc 4:Mn 2:Cn 4:Mc 2:Mn 1:Mc 2:Mn n:Po 4:Lo 2:Mn y:Cn 1c:Lo 3:Mc 8:Mn 2:Mc 1:Mn 1:Mc 2:Mn
  3:Po 1:Lo b:Cn a:Nd 6:Cn d:Po j:Cn 17:Lo 1:Mn 1:Mc 1:Mn 2:Mc 6:Mn 1:Mc 1:Mn 1:Lo 1:Po 6:Cn
  a:Nd 1i:Cn r:Lo 2:Cn 3:Mn 2:Mc 4:Mn 1:Mc 5:Mn 4:Cn a:Nd 2:No 3:Po 1:So 7:Lo 55:Cn 18:Lo
  3:Mc 9:Mn 1:Mc 2:Mn 1:Po 2s:Cn w:Lu w:Ll a:Nd 9:No c:Cn 8:Lo 2:Cn 1:Lo 2:Cn 8:Lo 1:Cn 2:Lo
  1:Cn o:Lo 6:Mc 1:Cn 2:Mc 2:Cn 2:Mn 1:Mc 1:Mn 1:Lo 1:Mc 1:Lo 1:Mc 1:Mn 3:Po 9:Cn a:Nd 1y:Cn
  8:Lo 2:Cn 13:Lo 3:Mc 4:Mn 2:Cn 2:Mn 4:Mc 1:Mn 1:Lo 1:Po 1:Lo 1:Mc r:Cn 1:Lo a:Mn 14:Lo 6:Mn
  1:Mc 1:Lo 4:Mn 8:Po 1:Mn 8:Cn 1:Lo 6:Mn 2:Mc 3:Mn 1a:Lo d:Mn 1:Mc 2:Mn 3:Po 1:Lo 5:Po d:Cn
  21:Lo 7:Cn a:Po 6u:Cn 9:Lo 1:Cn 11:Lo 1:Mc 7:Mn 1:Cn 6:Mn 1:Mc 1:Mn 1:Lo 5:Po a:Cn a:Nd
  j:No 3:Cn 2:Po u:Lo 2:Cn m:Mn 1:Cn 1:Mc 7:Mn 1:Mc 2:Mn 1:Mc 2:Mn 21:Cn 7:Lo 1:Cn 2:Lo 1:Cn
  12:Lo 6:Mn 3:Cn 1:Mn 1:Cn 2:Mn 1:Cn 7:Mn 1:Lo 1:Mn 8:Cn a:Nd 6:Cn 6:Lo 1:Cn 2:Lo 1:Cn w:Lo
  5:Mc 1:Cn 2:Mn 1:Cn 2:Mc 1:Mn 1:Mc 1:Mn 1:Lo 7:Cn a:Nd 8m:Cn j:Lo 2:Mn 2:Mc 2:Po 7:Cn 2:Mn
  1:Lo 1:Mc d:Lo 1:Cn y:Lo 2:Mc 5:Mn 3:Cn 2:Mc 1:Mn 1:Mc 1:Mn d:Po a:Nd 2e:Cn 1:Lo f:Cn l:No
  8:So 4:Sc h:So d:Cn 1:Po pm:Lo 2u:Cn 33:Nl 1:Cn 5:Po b:Cn 5g:Lo 218:Cn 2p:Lo 2:Po d:Cn
  ts:Lo g:Cf 1:Mn 6:Lo f:Mn 33e:Cn g7:Lo 6nt:Cn ft:Lo 7:Cn v:Lo 1:Cn a:Nd 4:Cn 2:Po 27:Lo
  1:Cn a:Nd 6:Cn u:Lo 2:Cn 5:Mn 1:Po a:Cn 1c:Lo 7:Mn 5:Po 4:So 4:Lm 1:Po 1:So a:Cn a:Nd 1:Cn
  7:No 1:Cn l:Lo 5:Cn j:Lo j4:Cn w:Lu w:Ll n:No 4:Po 2t:Cn 23:Lo 4:Cn 1:Mn 1:Lo 1j:Mc 7:Cn
  4:Mn d:Lm 1s:Cn 2:Lm 1:Po 1:Lm 1:Mn b:Cn 2:Mc e:Cn 4qg:Lo 8:Cn ye:Lo 16:Cn 9:Lo 6w7:Cn 4:Lm
  1:Cn 7:Lm 1:Cn 2:Lm 1:Cn 83:Lo f:Cn 1:Lo t:Cn 3:Lo 2:Cn 1:Lo e:Cn 4:Lo 8:Cn b0:Lo 1s4:Cn
  2z:Lo 5:Cn d:Lo 3:Cn 9:Lo 7:Cn a:Lo 2:Cn 1:So 2:Mn 1:Po 4:Cf 3mk:Cn 1a:Mn 2:Cn n:Mn 9:Cn
  38:So 1o:Cn 6u:So a:Cn 13:So 2:Cn 1o:So 2:Mc 3:Mn 3:So 6:Mc 8:Cf 8:Mn 2:So 7:Mn u:So 4:Mn
  1p:So l:Cn 1u:So 3:Mn 1:So 3e:Cn k:No c:Cn k:No c:Cn 2f:So 9:Cn p:No 3r:Cn q:Lu q:Ll q:Lu
  7:Ll 1:Cn i:Ll q:Lu q:Ll 1:Lu 1:Cn 2:Lu 2:Cn 1:Lu 2:Cn 2:Lu 2:Cn 4:Lu 1:Cn 8:Lu 4:Ll 1:Cn
  1:Ll 1:Cn 7:Ll 1:Cn b:Ll q:Lu q:Ll 2:Lu 1:Cn 4:Lu 2:Cn 8:Lu 1:Cn 7:Lu 1:Cn q:Ll 2:Lu 1:Cn
  4:Lu 1:Cn 5:Lu 1:Cn 1:Lu 3:Cn 7:Lu 1:Cn q:Ll q:Lu q:Ll q:Lu q:Ll q:Lu q:Ll q:Lu q:Ll q:Lu
  q:Ll q:Lu s:Ll 2:Cn p:Lu 1:Sm p:Ll 1:Sm 6:Ll p:Lu 1:Sm p:Ll 1:Sm 6:Ll p:Lu 1:Sm p:Ll 1:Sm
  6:Ll p:Lu 1:Sm p:Ll 1:Sm 6:Ll p:Lu 1:Sm p:Ll 1:Sm 6:Ll 1:Lu 1:Ll 2:Cn 1e:Nd e8:So 1j:Mn
  4:So 1e:Mn 8:So 1:Mn e:So 1:Mn 2:So 5:Po f:Cn 5:Mn 1:Cn f:Mn uo:Cn a:Ll 1:Lo k:Ll 6:Cn 6:Ll
  5x:Cn 7:Mn 1:Cn h:Mn 2:Cn 7:Mn 1:Cn 2:Mn 1:Cn 5:Mn 5:Cn 1q:Lm x:Cn 1:Mn 34:Cn 19:Lo 3:Cn
  7:Mn 7:Lm 2:Cn a:Nd 4:Cn 1:Lo 1:So 8w:Cn u:Lo 1:Mn h:Cn 18:Lo 4:Mn a:Nd 5:Cn 1:Sc cw:Cn
  r:Lo 1:Lm 4:Mn a:Nd km:Cn 7:Lo 1:Cn 4:Lo 1:Cn 2:Lo 1:Cn f:Lo 1:Cn 5h:Lo 2:Cn 9:No 7:Mn
  15:Cn y:Lu y:Ll 7:Mn 1:Lm 4:Cn a:Nd 4:Cn 2:Po lt:Cn 1n:No 1:So 3:No 1:Sc 4:No 24:Cn 19:No
  1:So f:No 5e:Cn 4:Lo 1:Cn r:Lo 1:Cn 2:Lo 1:Cn 1:Lo 2:Cn 1:Lo 1:Cn a:Lo 1:Cn 4:Lo 1:Cn 1:Lo
  1:Cn 1:Lo 6:Cn 1:Lo 4:Cn 1:Lo 1:Cn 1:Lo 1:Cn 1:Lo 1:Cn 3:Lo 1:Cn 2:Lo 1:Cn 1:Lo 2:Cn 1:Lo
  1:Cn 1:Lo 1:Cn 1:Lo 1:Cn 1:Lo 1:Cn 1:Lo 1:Cn 2:Lo 1:Cn 1:Lo 2:Cn 4:Lo 1:Cn 7:Lo 1:Cn 4:Lo
  1:Cn 4:Lo 1:Cn 1:Lo 1:Cn a:Lo 1:Cn h:Lo 5:Cn 3:Lo 1:Cn 5:Lo 1:Cn h:Lo 1g:Cn 2:Sm 7i:Cn
  18:So 4:Cn 2s:So c:Cn f:So 2:Cn f:So 1:Cn f:So 1:Cn 11:So a:Cn d:No 4h:So 1k:Cn t:So d:Cn
  18:So 4:Cn 9:So 7:Cn 2:So e:Cn 6:So 4a:Cn 6z:So 5:Sk k8:So 4:Cn h:So 3:Cn d:So 3:Cn 3b:So
  4:Cn 2n:So 6:Cn c:So 4:Cn 1:So f:Cn c:So 4:Cn 1k:So 8:Cn a:So 6:Cn 14:So 8:Cn u:So 2:Cn
  2:So 26:Cn 9g:So c:Cn e:So 2:Cn d:So 3:Cn 9:So 7:Cn 1a:So 1:Cn 7:So 8:Cn e:So 4:Cn 9:So
  7:Cn 9:So 7:Cn 43:So 1:Cn 1j:So 11:Cn a:Nd sm:Cn wyo:Lo w:Cn 37e:Lo 6:Cn 66:Lo 2:Cn 4g2:Lo
  e:Cn 5rl:Lo 2e7:Cn f2:Lo 15u:Cn 3t7:Lo 5:Cn 38g:Lo f975:Cn 1:Cf u:Cn 2o:Cf 3k:Cn 6o:Mn
  1e6o:Cn 1eke:Co 2:Cn 1eke:Co 2:Cn"

/-- A run as it is written: its length and its category. -/
def readRun (s : String) : Nat × String :=
  let cs := s.toList
  let count := cs.takeWhile (· != ':')
  (number (String.ofList count), String.ofList (cs.drop (count.length + 1)))

/-- Runs with the code points that they cover. -/
def placed (start : Nat) : List (Nat × String) → List (Nat × Nat × String)
  | [] => []
  | (n, v) :: rest => (start, start + n - 1, v) :: placed (start + n) rest

/-- The runs: first code point, last code point, category. -/
def runs : List (Nat × Nat × String) :=
  placed 0 ((words runsText).map readRun)

/-- The names of the categories and of their groups, the short one first. -/
def names : List (List String) :=
  [["C", "Other"],
   ["Cc", "Control", "Cntrl"],
   ["Cf", "Format"],
   ["Cn", "Unassigned"],
   ["Co", "Private_Use"],
   ["Cs", "Surrogate"],
   ["L", "Letter"],
   ["LC", "Cased_Letter"],
   ["Ll", "Lowercase_Letter"],
   ["Lm", "Modifier_Letter"],
   ["Lo", "Other_Letter"],
   ["Lt", "Titlecase_Letter"],
   ["Lu", "Uppercase_Letter"],
   ["M", "Mark", "Combining_Mark"],
   ["Mc", "Spacing_Mark"],
   ["Me", "Enclosing_Mark"],
   ["Mn", "Nonspacing_Mark"],
   ["N", "Number"],
   ["Nd", "Decimal_Number", "Digit"],
   ["Nl", "Letter_Number"],
   ["No", "Other_Number"],
   ["P", "Punctuation", "Punct"],
   ["Pc", "Connector_Punctuation"],
   ["Pd", "Dash_Punctuation"],
   ["Pe", "Close_Punctuation"],
   ["Pf", "Final_Punctuation"],
   ["Pi", "Initial_Punctuation"],
   ["Po", "Other_Punctuation"],
   ["Ps", "Open_Punctuation"],
   ["S", "Symbol"],
   ["Sc", "Currency_Symbol"],
   ["Sk", "Modifier_Symbol"],
   ["Sm", "Math_Symbol"],
   ["So", "Other_Symbol"],
   ["Z", "Separator"],
   ["Zl", "Line_Separator"],
   ["Zp", "Paragraph_Separator"],
   ["Zs", "Space_Separator"]]

/-- Whether a category belongs to a category or group with a short name. -/
def belongs (short category : String) : Bool :=
  short = category ∨
    (short = "LC" ∧ (category = "Lu" ∨ category = "Ll" ∨ category = "Lt")) ∨
    (short.length = 1 ∧ short.toList = category.toList.take 1)

/-- The code points of a category or group. -/
def ranges (short : String) : Ranges :=
  Ranges.ofList ((runs.filter fun r => belongs short r.2.2).map fun r => (r.1, r.2.1))

end Bindery.Unicode.Category
