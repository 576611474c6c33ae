import EnumExport.Text.Split

/-!
# The shared helper

The script module that modules with the shared strategy import: it builds the frozen object of an
enumeration from its data. It is written next to them as it stands here.
-/

namespace EnumExport.Script

/-- The name of the file that holds the helper. -/
def helperFile : String := "EnumRuntime.ts"

/-- The lines of the helper. -/
def helperLines : List String := [
    "// Shared runtime used by enum modules generated with the shared strategy.",
    "",
    "export type EnumLabel = string | Readonly<Record<string, string>>;",
    "",
    "export type EnumRuntimeEntry = \x7b",
    "  readonly key: string;",
    "  readonly value: string | number | null;",
    "  readonly label: EnumLabel;",
    "  readonly meta: Readonly<Record<string, unknown>>;",
    "  readonly [extra: string]: unknown;",
    "\x7d;",
    "",
    "export type EnumRuntimeOption = \x7b",
    "  readonly value: string | number;",
    "  readonly label: string;",
    "\x7d;",
    "",
    "export type EnumData = \x7b",
    "  readonly name: string;",
    "  readonly fqcn: string;",
    "  readonly backingType: 'string' | 'int' | null;",
    "  readonly entries: readonly EnumRuntimeEntry[];",
    "  readonly options: readonly EnumRuntimeOption[];",
    "\x7d;",
    "",
    "type EntriesOf<D extends EnumData> = D['entries'][number];",
    "",
    "type ValueOf<D extends EnumData> = D['backingType'] extends null",
    "  ? EntriesOf<D>['key']",
    "  : NonNullable<EntriesOf<D>['value']>;",
    "",
    "type CaseConstants<D extends EnumData> = \x7b",
    "  readonly [E in EntriesOf<D> as E['key']]: E;",
    "\x7d;",
    "",
    "export type EnumObject<D extends EnumData> = CaseConstants<D> & \x7b",
    "  readonly name: D['name'];",
    "  readonly fqcn: D['fqcn'];",
    "  readonly backingType: D['backingType'];",
    "  readonly count: number;",
    "  readonly entries: D['entries'];",
    "  readonly options: D['options'];",
    "  keys(): readonly EntriesOf<D>['key'][];",
    "  values(): readonly ValueOf<D>[];",
    "  labels(locale?: string): readonly string[];",
    "  from(value: string | number | null | undefined): EntriesOf<D> | null;",
    "  fromKey(key: string | null | undefined): EntriesOf<D> | null;",
    "  isValid(value: unknown): value is ValueOf<D>;",
    "  hasKey(key: unknown): key is EntriesOf<D>['key'];",
    "\x7d;",
    "",
    "export function resolveLabel(label: EnumLabel, locale?: string): string \x7b",
    "  if (typeof label === 'string') return label;",
    "  if (locale && label[locale]) return label[locale];",
    "  if (label.en) return label.en;",
    "  const firstKey = Object.keys(label)[0];",
    "  return firstKey !== undefined ? label[firstKey] : '';",
    "\x7d",
    "",
    "function deepFreeze<T>(value: T): T \x7b",
    "  if (value !== null && typeof value === 'object' && !Object.isFrozen(value)) \x7b",
    "    Object.freeze(value);",
    "    for (const child of Object.values(value as Record<string, unknown>)) \x7b",
    "      deepFreeze(child);",
    "    \x7d",
    "  \x7d",
    "  return value;",
    "\x7d",
    "",
    "export function buildEnum<D extends EnumData>(data: D): EnumObject<D> \x7b",
    "  const backed = data.backingType !== null;",
    "  const entries = deepFreeze(data.entries);",
    "  const options = deepFreeze(data.options);",
    "",
    "  const keys = Object.freeze(entries.map((e) => e.key));",
    "  const values = backed",
    "    ? Object.freeze(entries.flatMap((e) => (e.value === null ? [] : [e.value])))",
    "    : keys;",
    "",
    "  const byKey = new Map<string, EntriesOf<D>>();",
    "  const byValue = new Map<string | number, EntriesOf<D>>();",
    "  for (const entry of entries) \x7b",
    "    byKey.set(entry.key, entry);",
    "    if (backed && entry.value !== null) byValue.set(entry.value, entry);",
    "  \x7d",
    "  const lookup: ReadonlyMap<string | number, EntriesOf<D>> = backed ? byValue : byKey;",
    "",
    "  const api: Record<string, unknown> = \x7b",
    "    name: data.name,",
    "    fqcn: data.fqcn,",
    "    backingType: data.backingType,",
    "    count: entries.length,",
    "    entries,",
    "    options,",
    "    keys: () => keys,",
    "    values: () => values,",
    "    labels: (locale?: string) => Object.freeze(entries.map((e) => resolveLabel(e.label, locale))),",
    "    from: (value: string | number | null | undefined) =>",
    "      value == null ? null : (lookup.get(value) ?? null),",
    "    fromKey: (key: string | null | undefined) => (key == null ? null : (byKey.get(key) ?? null)),",
    "    isValid: (value: unknown) =>",
    "      (typeof value === 'string' || typeof value === 'number') && lookup.has(value),",
    "    hasKey: (key: unknown) => typeof key === 'string' && byKey.has(key),",
    "  \x7d;",
    "  for (const entry of entries) \x7b",
    "    api[entry.key] = entry;",
    "  \x7d",
    "  return Object.freeze(api) as unknown as EnumObject<D>;",
    "\x7d",
    "",
    "export function buildEnums<M extends Record<string, EnumData>>(",
    "  manifest: M,",
    "): \x7b readonly [K in keyof M]: EnumObject<M[K]> \x7d \x7b",
    "  const built: Record<string, unknown> = \x7b\x7d;",
    "  for (const [name, data] of Object.entries(manifest)) \x7b",
    "    built[name] = buildEnum(data);",
    "  \x7d",
    "  return Object.freeze(built) as \x7b readonly [K in keyof M]: EnumObject<M[K]> \x7d;",
    "\x7d"]

/-- The text of the helper. -/
def helperText : String := Text.join "\n" helperLines ++ "\n"

end EnumExport.Script
